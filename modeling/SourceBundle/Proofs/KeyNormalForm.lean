import SourceBundle.Proofs.EntryKeys
/-! Keys in normal form. The key of any path keeps, of its components, the names read as lossy
text and the `..` parts, one segment each and in order, and drops the root and the `.` parts
(`keyForKey`). A lossy name is never empty, `.` or `..` and holds no `/`, so the key is made of
segments that are none of these and neither starts nor ends with `/` (`keyEnds`). Spelled in
UTF-8, a key is cut at its separators into the spellings of its segments, and each spelling is read
back as the segment (`segmentKeyEncode`), so a key read as a path is its own key (`keyOfString`).

Main statement: `keyIsCanonicalFixedPoint`. -/
namespace SourceBundle
open Utf8 (Bytes)

namespace OsPath

def Component.keyText : Component → Option String
  | .normal n => some (Utf8.lossy n)
  | .parent => some ".."
  | _ => none

def Component.isNamed (c : Component) : Bool := c.keyText.isSome

def IsKeySegment (t : String) : Prop := t ≠ "" ∧ t ≠ "." ∧ '/' ∉ t.toList

instance : DecidablePred IsKeySegment := fun t =>
  inferInstanceAs (Decidable (t ≠ "" ∧ t ≠ "." ∧ '/' ∉ t.toList))

def SegmentFor (t : String) (c : Component) : Prop := IsKeySegment t ∧ (t = ".." ↔ c = .parent)

def KeyFor (s : String) (cs : List Component) : Prop :=
  ∃ segs, s = "/".intercalate segs ∧ List.Forall₂ SegmentFor segs (cs.filter Component.isNamed)

theorem keyOfEq (cs : List Component) : keyOf cs = "/".intercalate (cs.filterMap Component.keyText) := by
  unfold keyOf
  congr

theorem slashNotMemSegments (b : Bytes) : ∀ seg ∈ segments b, slash ∉ seg := by
  induction b with
  | nil => simp [segments]
  | cons x rest ih =>
    unfold segments
    split_ifs with sep
    · -- a separator closes the segment before it
      intro seg mem
      rcases List.mem_cons.mp mem with rfl | later
      · simp
      · exact ih seg later
    · split
      · simp [Ne.symm sep]
      · rename_i s ss split
        intro seg mem
        rcases List.mem_cons.mp mem with rfl | later
        · simp [Ne.symm sep, ih s (by simp [split])]
        · exact ih seg (by simp [split, later])

theorem segmentComponentNormal {seg n : Bytes} (h : segmentComponent seg = some (.normal n)) :
    n = seg ∧ n ≠ [] ∧ n ≠ [dot] ∧ n ≠ [dot, dot] := by
  unfold segmentComponent at h
  split_ifs at h with skip parent
  · cases h
  · cases h
    simp only [not_or] at skip
    exact ⟨rfl, skip.1, skip.2, parent⟩

theorem headKeyText {p : OsPath} {c : Component} (mem : c ∈ p.head) : c.keyText = none := by
  unfold head at mem
  split_ifs at mem <;> simp_all [Component.keyText]

theorem entryNameOfMemComponents {p : OsPath} {n : Bytes} (mem : .normal n ∈ p.components) :
    IsEntryName n := by
  rcases List.mem_append.mp mem with inHead | inBody
  · simpa [Component.keyText] using headKeyText inHead
  · obtain ⟨seg, inSegs, read⟩ := List.mem_filterMap.mp inBody
    obtain ⟨rfl, ne, notDot, notDots⟩ := segmentComponentNormal read
    exact ⟨⟨ne, slashNotMemSegments p.bytes _ inSegs⟩, notDot, notDots⟩

theorem keyTextSegment {c : Component} {t : String} (h : c.keyText = some t)
    (name : ∀ n, c = .normal n → IsEntryName n) : SegmentFor t c := by
  cases c with
  | normal n =>
    simp only [Component.keyText, Option.some.injEq] at h
    subst h
    obtain ⟨ne, notDot, notDots⟩ := lossyNameSegment (name n rfl)
    refine ⟨⟨fun e => ne (by rw [e]; rfl), fun e => notDot (by rw [e]; rfl),
      slashNotMemLossy (name n rfl).1.2⟩, ?_⟩
    simpa using fun e => notDots (by rw [e]; rfl)
  | parent =>
    simp only [Component.keyText, Option.some.injEq] at h
    subst h
    exact ⟨by decide, by simp⟩
  | root => simp [Component.keyText] at h
  | current => simp [Component.keyText] at h

theorem forall₂KeyText {cs : List Component} (names : ∀ n, .normal n ∈ cs → IsEntryName n) :
    List.Forall₂ SegmentFor (cs.filterMap Component.keyText) (cs.filter Component.isNamed) := by
  induction cs with
  | nil => exact .nil
  | cons c cs ih =>
    have rest := ih fun n mem => names n (List.mem_cons_of_mem c mem)
    cases text : c.keyText with
    | none => simpa [List.filterMap_cons, List.filter_cons, Component.isNamed, text] using rest
    | some t =>
      have first := keyTextSegment text fun n e => names n (e ▸ List.mem_cons_self)
      simpa [List.filterMap_cons, List.filter_cons, Component.isNamed, text] using List.Forall₂.cons first rest

theorem keyForKey (p : OsPath) : KeyFor p.key p.components :=
  ⟨_, keyOfEq p.components, forall₂KeyText fun _ => entryNameOfMemComponents⟩

theorem keyForSegments {s : String} {cs : List Component} (h : KeyFor s cs) :
    ∃ segs, s = "/".intercalate segs ∧ ∀ t ∈ segs, IsKeySegment t := by
  obtain ⟨segs, spelled, related⟩ := h
  exact ⟨segs, spelled, ((List.forall₂_and_left _ _).mp related).1⟩

theorem keyEnds {s : String} {cs : List Component} (h : KeyFor s cs) :
    s.toList.head? ≠ some '/' ∧ s.toList.getLast? ≠ some '/' := by
  obtain ⟨segs, rfl, segsOk⟩ := keyForSegments h
  rcases segs with _ | ⟨t, ts⟩
  · simp
  · -- cut at its separators, the key is its segments, none of them empty
    have split : ("/".intercalate (t :: ts)).toList.splitOn '/' = (t :: ts).map String.toList := by
      rw [String.toList_intercalate]
      exact List.splitOn_intercalate '/' (by simpa using fun u mem => (segsOk u mem).2.2) (by simp)
    have noEmpty : [] ∉ ("/".intercalate (t :: ts)).toList.splitOn '/' := by
      rw [split]
      intro mem
      obtain ⟨u, inSegs, empty⟩ := List.mem_map.mp mem
      exact (segsOk u inSegs).1 (String.toList_eq_nil_iff.mp empty)
    exact ⟨fun first => noEmpty (nilMemSplitOnOfEnds (.inl first)),
      fun last => noEmpty (nilMemSplitOnOfEnds (.inr last))⟩

theorem keyEqSegments (p : OsPath) :
    p.key = "/".intercalate ((segments p.bytes).filterMap fun seg =>
      (segmentComponent seg).bind Component.keyText) := by
  have front : p.head.filterMap Component.keyText = [] :=
    List.filterMap_eq_nil_iff.mpr fun _ mem => headKeyText mem
  rw [key, keyOfEq, components, List.filterMap_append, front, List.nil_append, List.filterMap_filterMap]

theorem encodeIntercalate : ∀ segs : List String,
    Utf8.encode ("/".intercalate segs) = joinSegments (segs.map Utf8.encode)
  | [] => rfl
  | [t] => by simp [joinSegments]
  | t :: u :: us => by
    rw [String.intercalate_cons_cons, Utf8.encodeAppend, Utf8.encodeAppend, encodeIntercalate (u :: us)]
    simp [joinSegments, show Utf8.encode "/" = [slash] from rfl]

theorem segmentsJoinSegments : ∀ {ns : List Bytes}, ns ≠ [] → (∀ n ∈ ns, slash ∉ n) →
    segments (joinSegments ns) = ns
  | [n], _, h => by simp [joinSegments, segmentsName (h n (by simp))]
  | n :: m :: ms, _, h => by
    simp only [joinSegments]
    rw [segmentsAppendSlash, segmentsName (h n (by simp)),
      segmentsJoinSegments (by simp) fun k mem => h k (List.mem_cons_of_mem n mem)]
    rfl

theorem slashNotMemEncode {t : String} (h : '/' ∉ t.toList) : slash ∉ Utf8.encode t := by
  intro mem
  obtain ⟨c, inside, same⟩ := Utf8.memEncodeAscii mem (by decide)
  have isSlash : c = '/' := Char.toNat_inj.mp (by simp [same, slash])
  exact h (isSlash ▸ inside)

theorem segmentKeyEncode {t : String} (seg : IsKeySegment t) :
    (segmentComponent (Utf8.encode t)).bind Component.keyText = some t := by
  -- "", "." and ".." spell the three segments that are no names, and a text has one spelling
  have spelled : Utf8.encode "" = [] ∧ Utf8.encode "." = [dot] ∧ Utf8.encode ".." = [dot, dot] := by
    decide
  have ne : Utf8.encode t ≠ [] := fun e => seg.1 (Utf8.encodeInj (e.trans spelled.1.symm))
  have notDot : Utf8.encode t ≠ [dot] := fun e => seg.2.1 (Utf8.encodeInj (e.trans spelled.2.1.symm))
  by_cases dots : t = ".."
  · subst dots
    simp [segmentComponent, spelled.2.2, Component.keyText]
  · have notDots : Utf8.encode t ≠ [dot, dot] :=
      fun e => dots (Utf8.encodeInj (e.trans spelled.2.2.symm))
    simp [segmentComponent, ne, notDot, notDots, Component.keyText,
      Utf8.lossyOfDecode (Utf8.decodeEncode t)]

theorem keyOfString {segs : List String} (segsOk : ∀ t ∈ segs, IsKeySegment t) :
    (ofString ("/".intercalate segs)).key = "/".intercalate segs := by
  rw [keyEqSegments]
  rcases segs with _ | ⟨t, ts⟩
  · rfl
  · have noSlash : ∀ n ∈ (t :: ts).map Utf8.encode, slash ∉ n := by
      simp only [List.mem_map]
      rintro _ ⟨u, mem, rfl⟩
      exact slashNotMemEncode (segsOk u mem).2.2
    rw [ofString, encodeIntercalate, segmentsJoinSegments (by simp) noSlash, List.filterMap_map]
    congr 1
    exact (List.filterMap_congr fun u mem => segmentKeyEncode (segsOk u mem)).trans List.filterMap_some

end OsPath

/-- The key of any path is in normal form: the `/`-join of one segment for each name and `..` part
of the path, `..` exactly for the parent parts, no segment empty, `.` or holding `/`, so no `/` at
either end; and the key, read as a path, is its own key. -/
theorem keyIsCanonicalFixedPoint (p : OsPath) :
    OsPath.KeyFor p.key p.components ∧ p.key.toList.head? ≠ some '/' ∧
      p.key.toList.getLast? ≠ some '/' ∧ (OsPath.ofString p.key).key = p.key := by
  have canonical := OsPath.keyForKey p
  obtain ⟨segs, spelled, segsOk⟩ := OsPath.keyForSegments canonical
  have fixed : (OsPath.ofString p.key).key = p.key := by
    rw [spelled]
    exact OsPath.keyOfString segsOk
  exact ⟨canonical, (OsPath.keyEnds canonical).1, (OsPath.keyEnds canonical).2, fixed⟩

end SourceBundle
