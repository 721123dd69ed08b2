import Mathlib
import SourceBundle.Proofs.Utf8Spelling
import SourceBundle.Proofs.GatherOutcome
import SourceBundle.Config.Locate
/-! Paths given for the project root and the configuration file. A given path is read as text
before it is looked up, lossily, and a leading `~` alone or before `/` then stands for the home
directory: the path looked up is the spelling of that text (`givenPath`). Well-formed bytes are
the spelling of their own reading, so a well-formed path is looked up as given, byte for byte, and
a path with an ill-formed part is looked up with U+FFFD spelled in its place, which is another
path (`givenPathEqSelfIff`). `PROJECT_ROOT` is read the same way, and counts as unset when it is
not UTF-8.

Main statement: `givenPathsLookedUpAsText`. -/
namespace SourceBundle

namespace OsPath

def tilde : UInt8 := 126

def StartsAtHome (p : OsPath) : Prop := p.bytes = [tilde] ∨ [tilde, slash] <+: p.bytes

end OsPath

namespace Host

def givenPath (h : Host) (p : OsPath) : OsPath := OsPath.ofString (expandTilde h.home p.display)

def configAt (h : Host) (path : OsPath) : Except Failure (Option OsPath) :=
  if h.tree.isFile h.cwd path then .ok (some path)
  else .error (.config s!"Specified config file not found at path: {path.display}")

def envRoot (h : Host) : OsPath :=
  match h.projectRoot with
  | some bs => if (Utf8.decode? bs).isSome ∧ bs ≠ [] then h.givenPath ⟨bs⟩ else h.cwdPath
  | none => h.cwdPath

end Host

theorem projectRootForGiven (h : Host) (p : OsPath) :
    h.projectRootFor? (some p) = h.rootAt (h.givenPath p) := by
  rfl

theorem configPathGiven (h : Host) (root p : OsPath) (j : Journal) :
    outcome (h.configPath? root (some p) false) j = h.configAt (h.givenPath p) := by
  unfold Host.configPath? Host.configAt Host.givenPath
  dsimp only [Bool.false_eq_true, if_false]
  cases h.tree.isFile h.cwd (OsPath.ofString (expandTilde h.home p.display)) <;> rfl

theorem decodeEqEmpty {bs : Utf8.Bytes} {s : String} (h : Utf8.decode? bs = some s) : s = "" ↔ bs = [] := by
  constructor
  · rintro rfl
    exact Utf8.decodeInj h (Utf8.decodeEncode "")
  · rintro rfl
    simpa [Utf8.decode?, Utf8.pieces, Utf8.Piece.allChars] using h.symm

theorem projectRootForNone (h : Host) : h.projectRootFor? none = h.rootAt h.envRoot := by
  unfold Host.projectRootFor? Host.projectRoot? Host.envRoot
  dsimp only [Option.map_none]
  congr 1
  rcases env : h.projectRoot with _ | bs
  · rfl
  · rcases read : Utf8.decode? bs with _ | s
    · simp [read]
    · -- a well-formed value is read as the text it spells
      have empty := decodeEqEmpty read
      by_cases blank : bs = []
      · subst blank
        obtain rfl := empty.mpr rfl
        simp [read]
      · have text : Utf8.lossy bs = s := Utf8.lossyOfDecode read
        simp [read, blank, String.isEmpty_iff, empty, Host.givenPath, OsPath.display, text]

section Tilde

theorem expandTildeLossy {bs : Utf8.Bytes} (plain : ¬ OsPath.StartsAtHome ⟨bs⟩) (home : Option String) :
    expandTilde home (Utf8.lossy bs) = Utf8.lossy bs := by
  unfold expandTilde
  split
  · next _ _ rest hm reads =>
    obtain ⟨after, rfl, readsAfter⟩ := Utf8.lossyEqAsciiCons reads (by decide)
    refine if_neg fun leads => plain ?_
    rcases leads with rfl | slashNext
    · -- nothing after the `~`
      have : after = [] := by
        by_contra ne
        exact Utf8.lossyNeEmpty ne (String.toList_eq_nil_iff.mp readsAfter)
      exact .inl (by simp [this, OsPath.tilde])
    · obtain ⟨r, rfl⟩ : ∃ r, rest = '/' :: r := by
        rcases rest with _ | ⟨c, r⟩ <;> simp_all
      obtain ⟨more, rfl, _⟩ := Utf8.lossyEqAsciiCons readsAfter (by decide)
      exact .inr ⟨more, by simp [OsPath.tilde, OsPath.slash]⟩
  · rfl

theorem givenPathEqSelfIff (h : Host) {p : OsPath} (plain : ¬ p.StartsAtHome) :
    h.givenPath p = p ↔ (Utf8.decode? p.bytes).isSome := by
  unfold Host.givenPath OsPath.display
  rw [expandTildeLossy plain, ← Utf8.encodeLossyEqIff]
  constructor
  · intro same
    simpa [OsPath.ofString] using congrArg OsPath.bytes same
  · intro same
    simp [OsPath.ofString, same]

theorem givenPathHome (h : Host) {rest : Utf8.Bytes} {home : String}
    (leads : rest = [] ∨ rest.head? = some OsPath.slash) (set : h.home = some home) :
    h.givenPath ⟨OsPath.tilde :: rest⟩ = OsPath.ofString (home ++ Utf8.lossy rest) := by
  have reads : (Utf8.lossy (OsPath.tilde :: rest)).toList = '~' :: (Utf8.lossy rest).toList :=
    Utf8.lossyAsciiCons (by decide) rest
  have next : (Utf8.lossy rest).toList = [] ∨ (Utf8.lossy rest).toList.head? = some '/' := by
    rcases leads with rfl | slashNext
    · exact .inl (by simp [Utf8.lossy, Utf8.pieces])
    · obtain ⟨r, rfl⟩ : ∃ r, rest = OsPath.slash :: r := by
        rcases rest with _ | ⟨b, r⟩ <;> simp_all
      exact .inr (by simp [@Utf8.lossyAsciiCons OsPath.slash (by decide) r]; rfl)
  unfold Host.givenPath OsPath.display expandTilde
  simp only [reads, set, if_pos next, String.ofList_toList]

end Tilde

/-- Every path given for the root or the configuration file is looked up as its lossy reading,
with a leading `~` expanded (`givenPath`): a path whose first component is not `~` is looked up
byte for byte exactly when it is well-formed UTF-8, and one led by `~` is the home directory
followed by the rest exactly when that rest is well-formed. With no root given, the root is
`PROJECT_ROOT` when it is UTF-8 text and not empty, read the same way, else the working
directory. -/
theorem givenPathsLookedUpAsText (h : Host) (root p : OsPath) :
    h.projectRootFor? (some p) = h.rootAt (h.givenPath p) ∧
    (∀ j, outcome (h.configPath? root (some p) false) j = h.configAt (h.givenPath p)) ∧
    (¬ p.StartsAtHome → (h.givenPath p = p ↔ (Utf8.decode? p.bytes).isSome)) ∧
    (∀ rest home, p.bytes = OsPath.tilde :: rest → (rest = [] ∨ rest.head? = some OsPath.slash) →
      h.home = some home →
      (h.givenPath p = ⟨Utf8.encode home ++ rest⟩ ↔ (Utf8.decode? rest).isSome)) ∧
    h.projectRootFor? none = h.rootAt h.envRoot := by
  refine ⟨projectRootForGiven h p, configPathGiven h root p, givenPathEqSelfIff h,
    fun rest home bytes leads set => ?_, projectRootForNone h⟩
  obtain ⟨bs⟩ := p
  subst bytes
  rw [givenPathHome h leads set, ← Utf8.encodeLossyEqIff]
  simp [OsPath.ofString, Utf8.encodeAppend]

theorem illFormedRootLookedUpElsewhere :
    ¬ OsPath.StartsAtHome ⟨[0x72, 0xff]⟩ ∧ (Utf8.decode? [0x72, 0xff]).isSome = false ∧
      oneFileHost.givenPath ⟨[0x72, 0xff]⟩ ≠ ⟨[0x72, 0xff]⟩ := by
  have plain : ¬ OsPath.StartsAtHome ⟨[0x72, 0xff]⟩ := by simp [OsPath.StartsAtHome, OsPath.tilde]
  have bad : (Utf8.decode? [0x72, 0xff]).isSome = false := by
    simp [Utf8.decode?, Utf8.piecesCons, Utf8.front, Utf8.pieces, Utf8.Piece.allChars]
  refine ⟨plain, bad, fun same => ?_⟩
  have wellFormed := ((givenPathsLookedUpAsText oneFileHost ⟨[47]⟩ ⟨[0x72, 0xff]⟩).2.2.1 plain).mp same
  simp [bad] at wellFormed

end SourceBundle
