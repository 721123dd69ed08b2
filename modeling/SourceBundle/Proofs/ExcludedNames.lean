import Mathlib
import SourceBundle.Config.File
/-! The excluded directory names of a configuration, from its construction through any edits.

A configuration is made by one of three constructors and then edited: names are added to the
excluded set, the policy or the manifest path is set, or it is asked about a directory or a file.
Main statement (`excludedNamesTrack`): after any such run the excluded set is exactly the three
builtins together with the non-empty trims of every name passed so far, kept strictly sorted, so it
depends only on which names were passed; the log holds one warning per name that trims to nothing
and one trace per name the set did not hold yet. A configuration read from a file is the one made
from the file's manifest path and names, with the file's policy. -/
namespace SourceBundle

inductive ConfigEdit where
  | addExcludes (names : List String)
  | setPolicy (policy : ReadPolicy)
  | setManifest (path : String)
  | isExcludedDir (name : String)
  | matchesFile (name : String)
  deriving DecidableEq, Repr

inductive ConfigStart where
  | default
  | new (manifest : String) (excludes : List String)
  | fromFile (file : FileConfig)
  deriving DecidableEq, Repr

namespace ConfigEdit

def apply (c : CollectConfig) : ConfigEdit → Logged CollectConfig
  | addExcludes names => c.addExcludes names
  | setPolicy p => pure { c with policy := p }
  | setManifest m => pure { c with manifestPath := m }
  | isExcludedDir _ | matchesFile _ => pure c

def names : ConfigEdit → List String
  | addExcludes names => names
  | _ => []

end ConfigEdit

namespace ConfigStart

def build : ConfigStart → Logged CollectConfig
  | default => pure {}
  | new m xs => CollectConfig.make m xs
  | fromFile f => CollectConfig.ofFile f

def names : ConfigStart → List String
  | default => []
  | new _ xs => xs
  | fromFile f => f.exclude

def run (s : ConfigStart) (edits : List ConfigEdit) : Logged CollectConfig := do
  edits.foldlM ConfigEdit.apply (← s.build)

end ConfigStart

def builtinExcludes : List String := [".git", ".idea", "target"]

def Trimmed (names : List String) (x : String) : Prop := x ≠ "" ∧ ∃ n ∈ names, CollectConfig.trimName n = x

def blankRecord : Record := ⟨.warn, configTarget, "Ignoring empty exclude entry"⟩

def addedRecord (x : String) : Record := ⟨.trace, configTarget, s!"Added excluded directory name: {x}"⟩

structure Excludes (names : List String) (c : CollectConfig) : Prop where
  sorted : c.excluded.Pairwise (· < ·)
  memIff : ∀ x, x ∈ c.excluded ↔ x ∈ builtinExcludes ∨ Trimmed names x
  extensions : c.extensions = ["rs", "toml"]
  fileNames : c.fileNames = ["Cargo.lock"]

instance (names : List String) : DecidablePred (Trimmed names) :=
  fun x => inferInstanceAs (Decidable (x ≠ "" ∧ ∃ n ∈ names, CollectConfig.trimName n = x))

structure Announces (known : List String) (names : List String) (written : Journal) : Prop where
  blanks : written.count blankRecord = (names.filter (CollectConfig.trimName · = "")).length
  added : ∀ x, written.count (addedRecord x) = if x ∉ known ∧ Trimmed names x then 1 else 0
  only : ∀ r ∈ written, r = blankRecord ∨ ∃ x, r = addedRecord x

section Names

@[simp] theorem trimmedNil (x : String) : ¬Trimmed [] x := by simp [Trimmed]

theorem trimmedAppend (a b : List String) (x : String) :
    Trimmed (a ++ b) x ↔ Trimmed a x ∨ Trimmed b x := by
  simp only [Trimmed, List.mem_append]
  constructor
  · rintro ⟨filled, n, (ina | inb), trims⟩
    · exact .inl ⟨filled, n, ina, trims⟩
    · exact .inr ⟨filled, n, inb, trims⟩
  · rintro (⟨filled, n, ina, trims⟩ | ⟨filled, n, inb, trims⟩)
    · exact ⟨filled, n, .inl ina, trims⟩
    · exact ⟨filled, n, .inr inb, trims⟩

theorem trimmedSingle (n x : String) :
    Trimmed [n] x ↔ x ≠ "" ∧ CollectConfig.trimName n = x := by
  simp [Trimmed]

end Names

section Insert

theorem insertNameCons (x y : String) (ys : List String) :
    insertName x (y :: ys) = if x < y then (x :: y :: ys, true) else if x = y then (y :: ys, false)
      else (y :: (insertName x ys).1, (insertName x ys).2) := by
  simp only [insertName]

theorem memInsertName (x y : String) (l : List String) :
    y ∈ (insertName x l).1 ↔ y = x ∨ y ∈ l := by
  induction l with
  | nil => simp [insertName]
  | cons z zs ih =>
    rw [insertNameCons]
    by_cases lt : x < z
    · simp [lt]
    · by_cases same : x = z
      · subst same
        simp
      · simp only [lt, same, if_false, List.mem_cons, ih]
        tauto

theorem insertNameSorted (x : String) {l : List String} (sorted : l.Pairwise (· < ·)) :
    (insertName x l).1.Pairwise (· < ·) := by
  induction l with
  | nil => simp [insertName]
  | cons z zs ih =>
    obtain ⟨least, rest⟩ := List.pairwise_cons.mp sorted
    rw [insertNameCons]
    by_cases lt : x < z
    · simp only [lt, if_true]
      refine List.Pairwise.cons (fun a mem => ?_) sorted
      rcases List.mem_cons.mp mem with rfl | later
      · exact lt
      · exact lt_trans lt (least a later)
    · by_cases same : x = z
      · simpa [lt, same] using sorted
      · have above : z < x := lt_of_le_of_ne (not_lt.mp lt) (Ne.symm same)
        simp only [lt, same, if_false]
        refine List.Pairwise.cons (fun a mem => ?_) (ih rest)
        rcases (memInsertName x a zs).mp mem with rfl | later
        · exact above
        · exact least a later

theorem insertNameFresh (x : String) {l : List String} (sorted : l.Pairwise (· < ·)) :
    (insertName x l).2 = true ↔ x ∉ l := by
  induction l with
  | nil => simp [insertName]
  | cons z zs ih =>
    obtain ⟨least, rest⟩ := List.pairwise_cons.mp sorted
    rw [insertNameCons]
    by_cases lt : x < z
    · simp only [lt, if_true, List.mem_cons, true_iff, not_or]
      exact ⟨ne_of_lt lt, fun mem => lt_asymm lt (least x mem)⟩
    · by_cases same : x = z
      · simp [same]
      · simp [lt, same, ih rest]

end Insert

section Trim
open CollectConfig

def isSeparator (ch : Char) : Bool := decide (ch = '/' ∨ ch = '\\')

theorem trimNameToList (n : String) :
    (trimName n).toList = (n.toList.reverse.dropWhile isSeparator).reverse := by
  simp only [trimName, String.toList_ofList]
  rfl

theorem trimNameSpec (n : String) :
    ∃ tail, n.toList = (trimName n).toList ++ tail ∧ (∀ ch ∈ tail, ch = '/' ∨ ch = '\\') ∧
      ∀ ch ∈ (trimName n).toList.getLast?, ch ≠ '/' ∧ ch ≠ '\\' := by
  refine ⟨(n.toList.reverse.takeWhile isSeparator).reverse, ?_, ?_, ?_⟩
  · rw [trimNameToList, ← List.reverse_append, List.takeWhile_append_dropWhile, List.reverse_reverse]
  · intro ch mem
    simpa [isSeparator] using List.mem_takeWhile_imp (List.mem_reverse.mp mem)
  · intro ch last
    rw [trimNameToList, List.getLast?_reverse, Option.mem_def, List.head?_eq_some_iff] at last
    obtain ⟨rest, kept⟩ := last
    have first := List.head_dropWhile_not isSeparator
      (by simp [kept] : n.toList.reverse.dropWhile isSeparator ≠ [])
    simp only [kept, List.head_cons, isSeparator, decide_eq_false_iff_not, not_or] at first
    exact first

end Trim

section Run
open CollectConfig

theorem addExcludeRun (c : CollectConfig) (n : String) (j : Journal) :
    (c.addExclude n).run j =
      if trimName n = "" then (c, j ++ [blankRecord])
      else ({ c with excluded := (insertName (trimName n) c.excluded).1 },
        j ++ if (insertName (trimName n) c.excluded).2 then [addedRecord (trimName n)] else []) := by
  by_cases blank : trimName n = ""
  · simp [addExclude, blank, say, blankRecord]
    rfl
  · cases fresh : (insertName (trimName n) c.excluded).2 <;>
      simp [addExclude, blank, say, addedRecord, fresh] <;> rfl

theorem Announces.nil (known : List String) : Announces known [] [] :=
  ⟨rfl, fun x => by simp, by simp⟩

@[simp] theorem blankRecordNeAdded (x : String) : blankRecord ≠ addedRecord x := by
  simp [blankRecord, addedRecord]

@[simp] theorem addedRecordNeBlank (x : String) : addedRecord x ≠ blankRecord :=
  (blankRecordNeAdded x).symm

theorem addedRecordInj {x y : String} : addedRecord x = addedRecord y ↔ x = y := by
  simp only [addedRecord, Record.mk.injEq, true_and, String.append_right_inj]
  exact Iff.rfl

theorem Announces.append {known known' first second : List String} {w₁ w₂ : Journal}
    (h₁ : Announces known first w₁) (grow : ∀ x, x ∈ known' ↔ x ∈ known ∨ Trimmed first x)
    (h₂ : Announces known' second w₂) : Announces known (first ++ second) (w₁ ++ w₂) where
  blanks := by simp [List.count_append, h₁.blanks, h₂.blanks]
  added x := by
    rw [List.count_append, h₁.added, h₂.added]
    by_cases old : x ∈ known <;> by_cases one : Trimmed first x <;> by_cases two : Trimmed second x <;>
      simp [old, one, two, grow, trimmedAppend]
  only r mem := by
    rcases List.mem_append.mp mem with mem | mem
    · exact h₁.only r mem
    · exact h₂.only r mem

theorem Excludes.grow {names more : List String} {c c' : CollectConfig} (before : Excludes names c)
    (after : Excludes (names ++ more) c') : ∀ x, x ∈ c'.excluded ↔ x ∈ c.excluded ∨ Trimmed more x := by
  intro x
  rw [after.memIff, before.memIff, trimmedAppend, or_assoc]

theorem addExcludeSpec (n : String) {names : List String} {c : CollectConfig} (j : Journal)
    (inv : Excludes names c) : ∃ S written, (c.addExclude n).run j = ({ c with excluded := S }, j ++ written) ∧
      Excludes (names ++ [n]) { c with excluded := S } ∧ Announces c.excluded [n] written := by
  rw [addExcludeRun]
  by_cases blank : trimName n = ""
  · refine ⟨c.excluded, [blankRecord], by simp [blank], ⟨inv.sorted, fun x => ?_, inv.extensions,
      inv.fileNames⟩, ⟨by simp [blank], fun x => ?_, by simp⟩⟩
    · rw [inv.memIff, trimmedAppend, trimmedSingle]
      grind
    · simp [trimmedSingle, blank]
  · have fresh := insertNameFresh (trimName n) inv.sorted
    refine ⟨(insertName (trimName n) c.excluded).1,
      if (insertName (trimName n) c.excluded).2 then [addedRecord (trimName n)] else [], by simp [blank], ⟨insertNameSorted _ inv.sorted,
      fun x => ?_, inv.extensions, inv.fileNames⟩, ⟨?_, fun x => ?_, ?_⟩⟩
    · rw [memInsertName, inv.memIff, trimmedAppend, trimmedSingle]
      grind
    · split <;> simp [blank]
    · by_cases new : trimName n ∈ c.excluded
      · have stale : (insertName (trimName n) c.excluded).2 = false := by simpa [new] using fresh
        simp only [stale, Bool.false_eq_true, if_false, List.count_nil, trimmedSingle]
        grind
      · have novel : (insertName (trimName n) c.excluded).2 = true := fresh.mpr new
        simp only [novel, if_true, List.count_singleton, beq_iff_eq, addedRecordInj, trimmedSingle]
        grind
    · split <;> simp

theorem excludesManifest (m : String) : Excludes [] ({ manifestPath := m } : CollectConfig) :=
  ⟨show builtinExcludes.Pairwise (· < ·) by decide, fun x => by simp [builtinExcludes], rfl, rfl⟩

theorem addExcludesSpec (ns : List String) : ∀ {names : List String} {c : CollectConfig} (j : Journal),
    Excludes names c → ∃ S written, (c.addExcludes ns).run j = ({ c with excluded := S }, j ++ written) ∧
      Excludes (names ++ ns) { c with excluded := S } ∧ Announces c.excluded ns written := by
  induction ns with
  | nil =>
    intro names c j inv
    exact ⟨c.excluded, [], by simp only [addExcludes, List.append_nil]; rfl, by simpa using inv,
      Announces.nil _⟩
  | cons n rest ih =>
    intro names c j inv
    obtain ⟨S₁, w₁, first, inv₁, said₁⟩ := addExcludeSpec n j inv
    obtain ⟨S₂, w₂, later, inv₂, said₂⟩ := ih (j ++ w₁) inv₁
    refine ⟨S₂, w₁ ++ w₂, ?_, by simpa using inv₂, ?_⟩
    · simp only [addExcludes, StateT.run_bind, first]
      rw [← List.append_assoc]
      exact later
    · exact Announces.append said₁ (inv.grow inv₁) said₂

theorem ofFileEqMake (f : FileConfig) :
    CollectConfig.ofFile f = (fun c => { c with policy := f.onReadError.getD .abort }) <$>
      CollectConfig.make (f.manifest.getD "Cargo.toml") f.exclude := by
  apply StateT.ext
  intro j
  obtain ⟨S, w, ran, -, -⟩ := addExcludesSpec f.exclude j (excludesManifest (f.manifest.getD "Cargo.toml"))
  obtain ⟨manifest, exclude, policy, escape⟩ := f
  cases manifest <;> cases policy <;>
    simp_all [CollectConfig.ofFile, CollectConfig.make] <;> rfl

theorem applySpec (e : ConfigEdit) {names : List String} {c : CollectConfig} (j : Journal)
    (inv : Excludes names c) : ∃ c' written, (ConfigEdit.apply c e).run j = (c', j ++ written) ∧
      Excludes (names ++ e.names) c' ∧ Announces c.excluded e.names written := by
  cases e with
  | addExcludes ns =>
    obtain ⟨S, w, ran, inv', said⟩ := addExcludesSpec ns j inv
    exact ⟨_, w, ran, inv', said⟩
  | setPolicy p =>
    exact ⟨{ c with policy := p }, [], by simp [ConfigEdit.apply]; rfl,
      by simpa [ConfigEdit.names] using ⟨inv.sorted, inv.memIff, inv.extensions, inv.fileNames⟩,
      Announces.nil _⟩
  | setManifest m =>
    exact ⟨{ c with manifestPath := m }, [], by simp [ConfigEdit.apply]; rfl,
      by simpa [ConfigEdit.names] using ⟨inv.sorted, inv.memIff, inv.extensions, inv.fileNames⟩,
      Announces.nil _⟩
  | isExcludedDir _ | matchesFile _ =>
    exact ⟨c, [], by simp [ConfigEdit.apply]; rfl, by simpa [ConfigEdit.names] using inv, Announces.nil _⟩

theorem foldlMApplySpec (edits : List ConfigEdit) : ∀ {names : List String} {c : CollectConfig}
    (j : Journal), Excludes names c → ∃ c' written, (edits.foldlM ConfigEdit.apply c).run j = (c', j ++ written) ∧
      Excludes (names ++ edits.flatMap ConfigEdit.names) c' ∧
      Announces c.excluded (edits.flatMap ConfigEdit.names) written := by
  induction edits with
  | nil =>
    intro names c j inv
    exact ⟨c, [], by simp; rfl, by simpa using inv, Announces.nil _⟩
  | cons e rest ih =>
    intro names c j inv
    obtain ⟨c₁, w₁, first, inv₁, said₁⟩ := applySpec e j inv
    obtain ⟨c₂, w₂, later, inv₂, said₂⟩ := ih (j ++ w₁) inv₁
    refine ⟨c₂, w₁ ++ w₂, ?_, by simpa using inv₂, ?_⟩
    · simp only [List.foldlM_cons, StateT.run_bind, first]
      rw [← List.append_assoc]
      exact later
    · rw [List.flatMap_cons]
      exact Announces.append said₁ (inv.grow inv₁) said₂

theorem buildSpec (s : ConfigStart) (j : Journal) : ∃ c written, s.build.run j = (c, j ++ written) ∧
    Excludes s.names c ∧ Announces builtinExcludes s.names written := by
  cases s with
  | default => exact ⟨{}, [], by simp [ConfigStart.build]; rfl, excludesManifest _, Announces.nil _⟩
  | new m xs =>
    obtain ⟨S, w, ran, inv, said⟩ := addExcludesSpec xs j (excludesManifest m)
    exact ⟨_, w, ran, by simpa [ConfigStart.names] using inv, said⟩
  | fromFile f =>
    obtain ⟨S, w, ran, inv, said⟩ := addExcludesSpec f.exclude j (excludesManifest (f.manifest.getD "Cargo.toml"))
    refine ⟨{ manifestPath := f.manifest.getD "Cargo.toml", excluded := S,
              policy := f.onReadError.getD .abort }, w, ?_,
      ⟨inv.sorted, inv.memIff, inv.extensions, inv.fileNames⟩, said⟩
    simp only [ConfigStart.build, ofFileEqMake, CollectConfig.make, StateT.run_map, ran]
    rfl

theorem runSpec (s : ConfigStart) (edits : List ConfigEdit) (j : Journal) :
    ∃ c written, (s.run edits).run j = (c, j ++ written) ∧
      Excludes (s.names ++ edits.flatMap ConfigEdit.names) c ∧
      Announces builtinExcludes (s.names ++ edits.flatMap ConfigEdit.names) written := by
  obtain ⟨c₁, w₁, built, inv₁, said₁⟩ := buildSpec s j
  obtain ⟨c₂, w₂, edited, inv₂, said₂⟩ := foldlMApplySpec edits (j ++ w₁) inv₁
  refine ⟨c₂, w₁ ++ w₂, ?_, inv₂, Announces.append said₁ ?_ said₂⟩
  · simp only [ConfigStart.run, StateT.run_bind, built]
    rw [← List.append_assoc]
    exact edited
  · intro x
    rw [inv₁.memIff]

theorem isExcludedIff (c : CollectConfig) (x : String) : c.isExcluded x = true ↔ x ∈ c.excluded := by
  simp [CollectConfig.isExcluded]

theorem Excludes.ends {names : List String} {c : CollectConfig} (inv : Excludes names c) :
    ∀ x ∈ c.excluded, ∃ front last, x.toList = front ++ [last] ∧ last ≠ '/' ∧ last ≠ '\\' := by
  intro x mem
  rcases (inv.memIff x).mp mem with builtin | ⟨filled, n, -, trims⟩
  · simp only [builtinExcludes, List.mem_cons, List.not_mem_nil, or_false] at builtin
    rcases builtin with rfl | rfl | rfl
    · exact ⟨".gi".toList, 't', rfl, by decide, by decide⟩
    · exact ⟨".ide".toList, 'a', rfl, by decide, by decide⟩
    · exact ⟨"targe".toList, 't', rfl, by decide, by decide⟩
  · obtain ⟨_, -, -, kept⟩ := trimNameSpec n
    rw [trims] at kept
    obtain ⟨front, ch, parts⟩ : ∃ front ch, x.toList = front ++ [ch] := by
      rcases List.eq_nil_or_concat x.toList with empty | ⟨front, ch, parts⟩
      · exact absurd (String.toList_eq_nil_iff.mp empty) filled
      · exact ⟨front, ch, by simpa using parts⟩
    exact ⟨front, ch, parts, kept ch (by simp [parts])⟩

theorem Excludes.excludedEqIff {names names' : List String} {c c' : CollectConfig}
    (inv : Excludes names c) (inv' : Excludes names' c') :
    c'.excluded = c.excluded ↔
      ∀ x, (x ∈ builtinExcludes ∨ Trimmed names' x) ↔ (x ∈ builtinExcludes ∨ Trimmed names x) := by
  constructor
  · intro same x
    rw [← inv.memIff, ← inv'.memIff, same]
  · intro members
    exact List.Pairwise.eq_of_mem_iff inv'.sorted inv.sorted fun x => by
      rw [inv.memIff, inv'.memIff, members]

end Run

/-- However a configuration is made and edited, its excluded set is the builtins together with the
non-empty trims of every name passed so far, in strictly increasing order, so two runs agree on it
exactly when they passed the same trimmed names; a directory is excluded when its name is in the
set; the file rules never change; and the log holds a warning per blank name and one trace per name
that was new to the set. A trim removes exactly the trailing `/` and `\` characters, and a
configuration read from a file is the one made from its manifest path and names, with its policy. -/
theorem excludedSetTracksNames (s : ConfigStart) (edits : List ConfigEdit) (j : Journal) :
    let c := ((s.run edits).run j).1
    let names := s.names ++ edits.flatMap ConfigEdit.names
    (c.excluded.Pairwise (· < ·) ∧ ∀ x, x ∈ c.excluded ↔ x ∈ builtinExcludes ∨ Trimmed names x) ∧
    (∀ x, c.isExcluded x = true ↔ x ∈ c.excluded) ∧
    (∀ x ∈ c.excluded, ∃ front last, x.toList = front ++ [last] ∧ last ≠ '/' ∧ last ≠ '\\') ∧
    (∀ (s' : ConfigStart) (edits' : List ConfigEdit) (j' : Journal),
      ((s'.run edits').run j').1.excluded = c.excluded ↔
        ∀ x, (x ∈ builtinExcludes ∨ Trimmed (s'.names ++ edits'.flatMap ConfigEdit.names) x) ↔
          (x ∈ builtinExcludes ∨ Trimmed names x)) ∧
    c.extensions = ["rs", "toml"] ∧ c.fileNames = ["Cargo.lock"] ∧
    (∃ written, ((s.run edits).run j).2 = j ++ written ∧ Announces builtinExcludes names written) ∧
    (∀ n, ∃ tail, n.toList = (CollectConfig.trimName n).toList ++ tail ∧
      (∀ ch ∈ tail, ch = '/' ∨ ch = '\\') ∧
      ∀ ch ∈ (CollectConfig.trimName n).toList.getLast?, ch ≠ '/' ∧ ch ≠ '\\') ∧
    ∀ f : FileConfig, CollectConfig.ofFile f =
      (fun c => { c with policy := f.onReadError.getD .abort }) <$>
        CollectConfig.make (f.manifest.getD "Cargo.toml") f.exclude := by
  obtain ⟨c, written, ran, inv, said⟩ := runSpec s edits j
  rw [ran]
  dsimp only
  refine ⟨⟨inv.sorted, inv.memIff⟩, isExcludedIff c, inv.ends, fun s' edits' j' => ?_,
    inv.extensions, inv.fileNames, ⟨written, rfl, said⟩, trimNameSpec, ofFileEqMake⟩
  obtain ⟨c', written', ran', inv', -⟩ := runSpec s' edits' j'
  rw [ran']
  exact inv.excludedEqIff inv'

example : (((ConfigStart.new "m" ["a/", "a\\/", "", "/"]).run [.addExcludes ["target", "b"]]).run []).1.excluded =
    [".git", ".idea", "a", "b", "target"] := by decide

end SourceBundle
