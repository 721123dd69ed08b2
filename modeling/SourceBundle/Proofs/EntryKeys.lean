import Mathlib
import SourceBundle.Proofs.GatherOutcome
import SourceBundle.Proofs.Utf8Spelling
/-! The key of an entry below the root. Joining a name that a directory can list adds one
component to a path, whether the path is empty, ends with a separator or not (`componentsJoin`),
and keeps it relative or absolute, so from any root the route to an entry is the names on the way
and its key is those names read as lossy text and joined by `/` (`keyFromJoinAll`). A lossy
reading has no `/` and is empty, `.` or `..` only when the name is, so the key is cut back into
the names' readings at its separators (`splitOnKey`): two keys are one exactly when the names
read alike (`keyEqIff`), and when the names are UTF-8 text, which has one spelling, only when
the names are the same (`Below.pathEqOfKeyFrom`).

Main statement: `keysJoinLossyNames`. -/
namespace SourceBundle
open Utf8 (Bytes)

namespace OsPath

def IsTextName (n : Bytes) : Prop := IsName n ∧ n ≠ [dot] ∧ n ≠ [dot, dot] ∧ (Utf8.decode? n).isSome

def IsEntryName (n : Bytes) : Prop := IsName n ∧ n ≠ [dot] ∧ n ≠ [dot, dot]

theorem IsTextName.entryName {n : Bytes} (hn : IsTextName n) : IsEntryName n := ⟨hn.1, hn.2.1, hn.2.2.1⟩

theorem segmentComponentName {n : Bytes} (hn : IsEntryName n) : segmentComponent n = some (.normal n) := by
  simp [segmentComponent, hn.1.1, hn.2.1, hn.2.2]

theorem startsAtCurrentAppend {a : Bytes} (x : Bytes) (two : 2 ≤ a.length) :
    startsAtCurrent (a ++ x) = startsAtCurrent a := by
  rcases a with _ | ⟨a0, _ | ⟨a1, rest⟩⟩
  · simp at two
  · simp at two
  · simp only [List.cons_append]
    unfold startsAtCurrent
    split <;> split <;> simp_all

theorem startsAtCurrentSlash (a x : Bytes) :
    startsAtCurrent (a ++ slash :: x) = startsAtCurrent (a ++ [slash]) := by
  rcases a with _ | ⟨a0, _ | ⟨a1, rest⟩⟩
  · rfl
  · simp only [List.cons_append, List.nil_append]
    unfold startsAtCurrent
    split <;> split <;> simp_all [slash]
  · rw [startsAtCurrentAppend _ (by simp), startsAtCurrentAppend _ (by simp)]

theorem headSlash (a x : Bytes) : head ⟨a ++ slash :: x⟩ = head ⟨a ++ [slash]⟩ := by
  have abs : isAbsolute ⟨a ++ slash :: x⟩ = isAbsolute ⟨a ++ [slash]⟩ := by
    cases a <;> rfl
  simp only [head, abs, startsAtCurrentSlash]

theorem componentsTrailingSlash {b : Bytes} (hb : b ≠ []) : components ⟨b ++ [slash]⟩ = components ⟨b⟩ := by
  have sameHead : head ⟨b ++ [slash]⟩ = head ⟨b⟩ := by
    have abs : isAbsolute ⟨b ++ [slash]⟩ = isAbsolute ⟨b⟩ := by
      obtain ⟨b0, rest, rfl⟩ := List.exists_cons_of_ne_nil hb
      rfl
    rcases b with _ | ⟨b0, _ | ⟨b1, rest⟩⟩
    · exact absurd rfl hb
    · have current : startsAtCurrent [b0, slash] = startsAtCurrent [b0] := by
        unfold startsAtCurrent
        split <;> split <;> simp_all [slash]
      have abs' : isAbsolute ⟨[b0, slash]⟩ = isAbsolute ⟨[b0]⟩ := rfl
      simp only [head, List.singleton_append, current, abs']
    · simp only [head, abs, startsAtCurrentAppend _ (by simp : 2 ≤ (b0 :: b1 :: rest).length)]
  have segs : segments (b ++ [slash]) = segments b ++ [[]] := segmentsAppendSlash b []
  simp [components, sameHead, segs, segmentComponent]

theorem componentsSlashName (a : Bytes) {n : Bytes} (hn : IsEntryName n) :
    components ⟨a ++ slash :: n⟩ = components ⟨a ++ [slash]⟩ ++ [.normal n] := by
  have segs : segments (a ++ slash :: n) = segments a ++ [n] := by
    rw [segmentsAppendSlash, segmentsName hn.1.2]
  have segs' : segments (a ++ [slash]) = segments a ++ [[]] := segmentsAppendSlash a []
  simp [components, headSlash, segs, segs', segmentComponentName hn,
    show segmentComponent [] = none from rfl]

theorem componentsName {n : Bytes} (hn : IsEntryName n) : components ⟨n⟩ = [.normal n] := by
  have notCurrent : startsAtCurrent n = false := by
    rcases n with _ | ⟨b0, _ | ⟨b1, rest⟩⟩
    · exact absurd rfl hn.1.1
    · have : b0 ≠ dot := fun e => hn.2.1 (by rw [e])
      unfold startsAtCurrent
      split <;> simp_all [dot]
    · have : b1 ≠ slash := fun e => hn.1.2 (by simp [e])
      unfold startsAtCurrent
      split <;> simp_all [slash]
  have relative : (⟨n⟩ : OsPath).isAbsolute = false := by
    rcases n with _ | ⟨b0, rest⟩
    · exact absurd rfl hn.1.1
    · have : b0 ≠ slash := fun e => hn.1.2 (by simp [e])
      simp [isAbsolute, this]
  simp [components, head, relative, notCurrent, segmentsName hn.1.2, segmentComponentName hn]

theorem componentsJoin (p : OsPath) {n : Bytes} (hn : IsEntryName n) :
    (p.join ⟨n⟩).components = p.components ++ [.normal n] := by
  obtain ⟨n0, rest, hn0⟩ := List.exists_cons_of_ne_nil hn.1.1
  have relative : (⟨n⟩ : OsPath).isAbsolute = false := by
    have : n0 ≠ slash := fun e => hn.1.2 (by simp [hn0, e])
    simp [isAbsolute, hn0, this]
  by_cases empty : p.bytes = []
  · -- the name alone
    have joined : p.join ⟨n⟩ = ⟨n⟩ := by simp [join, relative, empty]
    have nothing : p.components = [] := by
      obtain ⟨bytes⟩ := p
      subst empty
      rfl
    rw [joined, componentsName hn, nothing, List.nil_append]
  · by_cases last : p.bytes.getLast? = some slash
    · obtain ⟨a, ha⟩ := List.getLast?_eq_some_iff.mp last
      have joined : p.join ⟨n⟩ = ⟨a ++ slash :: n⟩ := by
        simp [join, relative, ha]
      rw [joined, componentsSlashName a hn, ← ha]
    · have joined : p.join ⟨n⟩ = ⟨p.bytes ++ slash :: n⟩ := by
        simp [join, relative, last, empty]
      rw [joined, componentsSlashName _ hn, componentsTrailingSlash empty]

theorem componentsJoinAll (p : OsPath) {ns : List Bytes} (hns : ∀ n ∈ ns, IsEntryName n) :
    (p.joinAll ns).components = p.components ++ ns.map .normal := by
  induction ns generalizing p with
  | nil => simp [joinAll]
  | cons n ns ih =>
    have rest := ih (p.join ⟨n⟩) (fun m hm => hns m (by simp [hm]))
    simp only [joinAll, List.foldl_cons] at rest ⊢
    rw [rest, componentsJoin p (hns n (by simp))]
    simp

theorem isAbsoluteJoinAll (p : OsPath) {ns : List Bytes} (hns : ∀ n ∈ ns, IsEntryName n) :
    (p.joinAll ns).isAbsolute = p.isAbsolute := by
  induction ns generalizing p with
  | nil => rfl
  | cons n ns ih =>
    simp only [joinAll, List.foldl_cons] at ih ⊢
    rw [ih (p.join ⟨n⟩) (fun m hm => hns m (by simp [hm])),
      isAbsoluteJoin (hns n List.mem_cons_self).1]

theorem routeShared (cs ds : List Component) : route (cs ++ ds) cs [] = some ds := by
  induction cs with
  | nil => cases ds <;> rfl
  | cons c cs ih => simp [route, ih]

theorem keyFromJoinAll (p : OsPath) {ns : List Bytes} (hns : ∀ n ∈ ns, IsEntryName n) :
    (p.joinAll ns).keyFrom p = "/".intercalate (ns.map Utf8.lossy) := by
  have relative : (p.joinAll ns).relativeTo p = some (ns.map .normal) := by
    simp [relativeTo, isAbsoluteJoinAll p hns, componentsJoinAll p hns, routeShared]
  simp [keyFrom, relative, keyOf, List.filterMap_map]

theorem slashNotMemLossy {n : Bytes} (hn : slash ∉ n) : '/' ∉ (Utf8.lossy n).toList := by
  intro mem
  obtain ⟨b, inside, same⟩ := Utf8.memLossyAscii mem (by decide)
  have isSlash : b = slash := UInt8.toNat_inj.mp (by simp [same, slash])
  exact hn (isSlash ▸ inside)

theorem splitOnKey {ns : List Bytes} (ne : ns ≠ []) (hns : ∀ n ∈ ns, IsName n) :
    ("/".intercalate (ns.map Utf8.lossy)).toList.splitOn '/' = ns.map fun n => (Utf8.lossy n).toList := by
  have sep : "/".toList = ['/'] := by decide
  simp only [String.toList_intercalate, sep, List.map_map, Function.comp_def]
  exact List.splitOn_intercalate '/' (by simpa using fun n hn => slashNotMemLossy (hns n hn).2)
    (by simpa using ne)

theorem keyEqIff {ns ns' : List Bytes} (ne : ns ≠ []) (ne' : ns' ≠ []) (hns : ∀ n ∈ ns, IsName n)
    (hns' : ∀ n ∈ ns', IsName n) :
    "/".intercalate (ns.map Utf8.lossy) = "/".intercalate (ns'.map Utf8.lossy) ↔
      ns.map Utf8.lossy = ns'.map Utf8.lossy := by
  constructor
  · intro same
    have split := congrArg (fun s => s.toList.splitOn '/') same
    simp only [splitOnKey ne hns, splitOnKey ne' hns'] at split
    simpa [List.map_map, Function.comp_def] using congrArg (List.map String.ofList) split
  · intro same
    rw [same]

theorem lossyNamesInj : ∀ {ns ns' : List Bytes}, (∀ n ∈ ns, IsTextName n) →
    (∀ n ∈ ns', IsTextName n) → ns.map Utf8.lossy = ns'.map Utf8.lossy → ns = ns'
  | [], [], _, _, _ => rfl
  | [], _ :: _, _, _, same => by simp at same
  | _ :: _, [], _, _, same => by simp at same
  | n :: ns, n' :: ns', hns, hns', same => by
    simp only [List.map_cons, List.cons.injEq] at same
    have first : n = n' := Utf8.lossyInj (hns n (by simp)).2.2.2 (hns' n' (by simp)).2.2.2 same.1
    have rest := lossyNamesInj (fun m hm => hns m (by simp [hm])) (fun m hm => hns' m (by simp [hm])) same.2
    rw [first, rest]

theorem keyInj {ns ns' : List Bytes} (ne : ns ≠ []) (ne' : ns' ≠ []) (hns : ∀ n ∈ ns, IsTextName n)
    (hns' : ∀ n ∈ ns', IsTextName n)
    (same : "/".intercalate (ns.map Utf8.lossy) = "/".intercalate (ns'.map Utf8.lossy)) : ns = ns' :=
  lossyNamesInj hns hns'
    ((keyEqIff ne ne' (fun n hn => (hns n hn).1) (fun n hn => (hns' n hn).1)).mp same)

def IsEntryKey (k : String) : Prop :=
  k ≠ "" ∧ k.toList.head? ≠ some '/' ∧ k.toList.getLast? ≠ some '/' ∧
    ∀ seg ∈ k.toList.splitOn '/', seg ≠ [] ∧ seg ≠ ['.'] ∧ seg ≠ ['.', '.']

theorem nilMemSplitOnOfEnds {l : List Char} (ends : l.head? = some '/' ∨ l.getLast? = some '/') :
    [] ∈ l.splitOn '/' := by
  rcases ends with first | last
  · obtain ⟨rest, split⟩ := List.head?_eq_some_iff.mp first
    rw [split, ← List.nil_append ('/' :: rest), List.splitOn_append_cons_self]
    simp [List.splitOn_nil]
  · obtain ⟨front, split⟩ := List.getLast?_eq_some_iff.mp last
    rw [split, List.splitOn_append_cons_self]
    simp [List.splitOn_nil]

theorem isEntryKeyOfSegments {k : String}
    (segs : ∀ seg ∈ k.toList.splitOn '/', seg ≠ [] ∧ seg ≠ ['.'] ∧ seg ≠ ['.', '.']) : IsEntryKey k := by
  refine ⟨fun empty => ?_, fun first => ?_, fun last => ?_, segs⟩
  · exact (segs [] (by simp [empty, List.splitOn_nil])).1 rfl
  · exact (segs [] (nilMemSplitOnOfEnds (.inl first))).1 rfl
  · exact (segs [] (nilMemSplitOnOfEnds (.inr last))).1 rfl

theorem lossyNameSegment {n : Bytes} (hn : IsEntryName n) :
    (Utf8.lossy n).toList ≠ [] ∧ (Utf8.lossy n).toList ≠ ['.'] ∧ (Utf8.lossy n).toList ≠ ['.', '.'] := by
  have oneDot : Utf8.lossy [dot] = "." := by simp [Utf8.lossy, Utf8.piecesCons, Utf8.front, Utf8.pieces, dot]
  have twoDots : Utf8.lossy [dot, dot] = ".." := by
    simp [Utf8.lossy, Utf8.piecesCons, Utf8.front, Utf8.pieces, dot]
  refine ⟨by simpa using Utf8.lossyNeEmpty hn.1.1, fun spelled => ?_, fun spelled => ?_⟩
  · have same : Utf8.lossy n = Utf8.lossy [dot] := by rw [oneDot, ← String.toList_inj, spelled]; rfl
    refine hn.2.1 (Utf8.eqOfLossyClean ?_ (by rw [oneDot]; decide) same)
    simp [Utf8.decode?, Utf8.piecesCons, Utf8.front, Utf8.pieces, Utf8.Piece.allChars, dot]
  · have same : Utf8.lossy n = Utf8.lossy [dot, dot] := by rw [twoDots, ← String.toList_inj, spelled]; rfl
    refine hn.2.2 (Utf8.eqOfLossyClean ?_ (by rw [twoDots]; decide) same)
    simp [Utf8.decode?, Utf8.piecesCons, Utf8.front, Utf8.pieces, Utf8.Piece.allChars, dot]

theorem entryKeyNames {ns : List Bytes} (ne : ns ≠ []) (hns : ∀ n ∈ ns, IsEntryName n) :
    IsEntryKey ("/".intercalate (ns.map Utf8.lossy)) := by
  apply isEntryKeyOfSegments
  rw [splitOnKey ne fun n hn => (hns n hn).1]
  intro seg mem
  obtain ⟨n, hn, rfl⟩ := List.mem_map.mp mem
  exact lossyNameSegment (hns n hn)

end OsPath

theorem readTextKey {h : Host} {path root : OsPath} {f : FileText}
    (read : readText h path root = .ok (some f)) : f.key = path.keyFrom root := by
  unfold readText at read
  split at read
  · cases read
  · cases read
  · split at read
    · cases read
    · cases read
      rfl

/-- The key of a file read below a root is the names on the way joined by `/`, whatever the root's
spelling. It is a well-formed key, and two such keys are one exactly when the names read as the
same texts, hence only when the names are the same if they are all UTF-8. -/
theorem keysJoinLossyNames (root : OsPath) (ns ns' : List Bytes) (ne : ns ≠ []) (ne' : ns' ≠ [])
    (names : ∀ n ∈ ns, OsPath.IsEntryName n) (names' : ∀ n ∈ ns', OsPath.IsEntryName n) :
    (∀ (h : Host) (f : FileText), readText h (root.joinAll ns) root = .ok (some f) →
      f.key = "/".intercalate (ns.map Utf8.lossy)) ∧
    OsPath.IsEntryKey ((root.joinAll ns).keyFrom root) ∧
    ((root.joinAll ns).keyFrom root = (root.joinAll ns').keyFrom root ↔
      ns.map Utf8.lossy = ns'.map Utf8.lossy) ∧
    ((∀ n ∈ ns ++ ns', (Utf8.decode? n).isSome) →
      ((root.joinAll ns).keyFrom root = (root.joinAll ns').keyFrom root ↔ ns = ns')) := by
  have key := OsPath.keyFromJoinAll root names
  have key' := OsPath.keyFromJoinAll root names'
  have collide := OsPath.keyEqIff ne ne' (fun n hn => (names n hn).1) (fun n hn => (names' n hn).1)
  refine ⟨fun h f read => by rw [readTextKey read, key], key ▸ OsPath.entryKeyNames ne names,
    by rw [key, key', collide], fun texts => ?_⟩
  -- well-formed names have one lossy reading each
  have asText : ∀ m ∈ ns ++ ns', OsPath.IsEntryName m → OsPath.IsTextName m :=
    fun m hm entry => ⟨entry.1, entry.2.1, entry.2.2, texts m hm⟩
  rw [key, key', collide]
  constructor
  · exact OsPath.lossyNamesInj (fun m hm => asText m (by simp [hm]) (names m hm))
      (fun m hm => asText m (by simp [hm]) (names' m hm))
  · intro same
    rw [same]

theorem oneFileKeyJoinsName :
    [[97, 46, 114, 115]] ≠ ([] : List Bytes) ∧ (∀ n ∈ [[97, 46, 114, 115]], OsPath.IsEntryName n) ∧
      readText oneFileHost (OsPath.joinAll ⟨[47]⟩ [[97, 46, 114, 115]]) ⟨[47]⟩ =
        .ok (some ⟨⟨[47, 97, 46, 114, 115]⟩, OsPath.keyFrom ⟨[47, 97, 46, 114, 115]⟩ ⟨[47]⟩, "x"⟩) ∧
      OsPath.keyFrom ⟨[47, 97, 46, 114, 115]⟩ ⟨[47]⟩ = "/".intercalate ([[97, 46, 114, 115]].map Utf8.lossy) := by
  have names : ∀ n ∈ [[97, 46, 114, 115]], OsPath.IsEntryName n := by
    simp [OsPath.IsEntryName, OsPath.IsName, OsPath.slash, OsPath.dot]
  have joined : OsPath.joinAll ⟨[47]⟩ [[97, 46, 114, 115]] = ⟨[47, 97, 46, 114, 115]⟩ := by decide
  have bytes : oneFileHost.tree.read oneFileHost.cwd ⟨[47, 97, 46, 114, 115]⟩ = .ok [120] := by
    simp [oneFileHost, Tree.read, Tree.stat, Tree.lookup, Tree.locate, Tree.walk, Tree.steps,
      Tree.get?, OsPath.segments, OsPath.slash, Tree.startOf, OsPath.isAbsolute, Except.map,
      pathLimit, linkLimit, nameLimit]
  have read : readText oneFileHost (OsPath.joinAll ⟨[47]⟩ [[97, 46, 114, 115]]) ⟨[47]⟩ =
      .ok (some ⟨⟨[47, 97, 46, 114, 115]⟩, OsPath.keyFrom ⟨[47, 97, 46, 114, 115]⟩ ⟨[47]⟩, "x"⟩) := by
    rw [joined]
    simp [readText, bytes, Utf8.decode?, Utf8.piecesCons, Utf8.front, Utf8.pieces, Utf8.Piece.allChars]
  exact ⟨by simp, names, read,
    (keysJoinLossyNames ⟨[47]⟩ _ _ (by simp) (by simp) names names).1 oneFileHost _ read⟩

def Tree.NamesText (t : Tree) : Prop := ∀ e ∈ t.entries, ∀ n ∈ e.1, OsPath.IsTextName n

namespace Below

theorem namesNeNil (b : Below) : b.names ≠ [] := by simp [names]

theorem keyFromPath {t : Tree} (texts : t.NamesText) {loc : Location} {b : Below} (mem : b ∈ t.below loc)
    (root : OsPath) : (b.path root).keyFrom root = "/".intercalate (b.names.map Utf8.lossy) := by
  rw [pathEqJoinAll]
  exact OsPath.keyFromJoinAll root fun n hn => (Tree.namesBelow texts loc b mem n hn).entryName

theorem pathEqOfKeyFrom {t : Tree} (texts : t.NamesText) {loc : Location} {b b' : Below}
    (mem : b ∈ t.below loc) (mem' : b' ∈ t.below loc) {root : OsPath}
    (same : (b.path root).keyFrom root = (b'.path root).keyFrom root) : b.path root = b'.path root := by
  rw [keyFromPath texts mem root, keyFromPath texts mem' root] at same
  have names := OsPath.keyInj b.namesNeNil b'.namesNeNil (Tree.namesBelow texts loc b mem)
    (Tree.namesBelow texts loc b' mem') same
  rw [pathEqJoinAll, pathEqJoinAll, names]

end Below

end SourceBundle
