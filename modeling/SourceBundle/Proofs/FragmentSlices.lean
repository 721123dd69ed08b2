import Mathlib
import SourceBundle.Json.Format
/-! The escaping loop of the formatter. It walks a run by byte offset and keeps the offset of the
first character it has not written; the characters it passes over are written later as one
slice. Read against the run cut as `pre ++ pending ++ rest`, the loop is at the start of `rest`
with `pending` passed over and not yet written, and it has written the escaped text of `pre`.
Each slice it takes is then a `pending` run: its offsets fall between characters and it is never
empty (`slicesOfPending`), so slicing reads back exactly the characters passed over
(`sliceBytesMiddle`) and the whole run comes out one character at a time (`textOfPending`).

Main statement: `escapingLoopWritesEachChar`. -/
namespace SourceBundle.Json

def IsCharBoundary (run : List Char) (n : Nat) : Prop :=
  ∃ pre rest, run = pre ++ rest ∧ utf8Length pre = n

def escapedChar (c : Char) : List Char :=
  if ' ' ≤ c ∧ c ≤ '~' then [c] else (utf16Units c).flatMap unitEscape

theorem fragmentTextEscaping {f : Formatter} (escaping : f.escapeNonAscii = true) (run : List Char) :
    f.fragmentText run = run.flatMap escapedChar := by
  simp only [Formatter.fragmentText, escaping, if_true]
  rfl

theorem utf8LengthPos {cs : List Char} (ne : cs ≠ []) : 0 < utf8Length cs := by
  obtain ⟨c, rest, rfl⟩ := List.exists_cons_of_ne_nil ne
  simp only [utf8LengthCons]
  have := c.utf8Size_pos
  omega

section Slicing

theorem dropBytesAppend (pre rest : List Char) : dropBytes (utf8Length pre) (pre ++ rest) = some rest := by
  induction pre with
  | nil => simp [dropBytes]
  | cons c pre ih =>
    have size := c.utf8Size_pos
    obtain ⟨n, hn⟩ : ∃ n, c.utf8Size + utf8Length pre = n + 1 := ⟨_, (Nat.succ_pred_eq_of_pos (by omega)).symm⟩
    rw [utf8LengthCons, hn, List.cons_append, dropBytes, if_pos (by omega),
      show n + 1 - c.utf8Size = utf8Length pre by omega, ih]

theorem takeBytesAppend (mid rest : List Char) : takeBytes (utf8Length mid) (mid ++ rest) = some mid := by
  induction mid with
  | nil => simp [takeBytes]
  | cons c mid ih =>
    have size := c.utf8Size_pos
    obtain ⟨n, hn⟩ : ∃ n, c.utf8Size + utf8Length mid = n + 1 := ⟨_, (Nat.succ_pred_eq_of_pos (by omega)).symm⟩
    rw [utf8LengthCons, hn, List.cons_append, takeBytes, if_pos (by omega),
      show n + 1 - c.utf8Size = utf8Length mid by omega, ih]
    rfl

theorem sliceBytesMiddle (pre mid rest : List Char) :
    sliceBytes (pre ++ mid ++ rest) (utf8Length pre) (utf8Length pre + utf8Length mid) = some mid := by
  rw [sliceBytes, if_pos (by omega), List.append_assoc, dropBytesAppend,
    show utf8Length pre + utf8Length mid - utf8Length pre = utf8Length mid by omega]
  exact takeBytesAppend mid rest

end Slicing

section Loop
variable (run : List Char)

theorem mapMFlattenCons {α} (f : α → Option (List Char)) (x : α) (xs : List α) :
    ((x :: xs).mapM f).map List.flatten = (f x).bind fun a => ((xs.mapM f).map List.flatten).map (a ++ ·) := by
  rw [List.mapM_cons]
  cases f x <;> cases xs.mapM f <;> simp

theorem textOfPending (rest : List Char) : ∀ pre pending : List Char, run = pre ++ pending ++ rest →
    (∀ c ∈ pending, ' ' ≤ c ∧ c ≤ '~') →
    ((fragmentWrites (utf8Length run) (utf8Length pre)
      (charIndices (utf8Length pre + utf8Length pending) rest)).mapM (FragmentWrite.text? run)).map
        List.flatten = some (pending ++ rest.flatMap escapedChar) := by
  induction rest with
  | nil =>
    intro pre pending split _
    have whole : utf8Length run = utf8Length pre + utf8Length pending := by simp [split]
    simp only [charIndices, fragmentWrites, whole, List.flatMap_nil, List.append_nil]
    by_cases empty : pending = []
    · subst empty
      simp
    · have slice := sliceBytesMiddle pre pending []
      rw [List.append_nil, ← List.append_nil (pre ++ pending), ← split] at slice
      have pos := utf8LengthPos empty
      simp [pos, FragmentWrite.text?, slice]
  | cons c rest ih =>
    intro pre pending split plain
    simp only [charIndices, fragmentWrites]
    by_cases printable : ' ' ≤ c ∧ c ≤ '~'
    · -- the character joins the pending run
      rw [if_pos printable]
      have moved := ih pre (pending ++ [c]) (by simp [split])
        (fun d hd => by rcases List.mem_append.mp hd with hd | hd <;> simp_all)
      rw [utf8LengthAppend, utf8LengthCons, utf8LengthNil, ← Nat.add_assoc, Nat.add_zero] at moved
      rw [moved]
      simp [escapedChar, printable]
    · -- the pending run is written, then the character's escapes
      rw [if_neg printable]
      have past : utf8Length (pre ++ pending ++ [c]) = utf8Length pre + utf8Length pending + c.utf8Size := by
        simp [Nat.add_assoc]
      have after := ih (pre ++ pending ++ [c]) [] (by simp [split]) (by simp)
      rw [past, utf8LengthNil, Nat.add_zero, List.nil_append] at after
      have escapes : escapedChar c = (utf16Units c).flatMap unitEscape := by simp [escapedChar, printable]
      by_cases empty : pending = []
      · subst empty
        simp only [utf8LengthNil, Nat.add_zero, Nat.lt_irrefl, if_false, List.nil_append] at after ⊢
        rw [mapMFlattenCons, after]
        simp [FragmentWrite.text?, escapes]
      · have slice := sliceBytesMiddle pre pending (c :: rest)
        rw [← split] at slice
        have inside : utf8Length pre < utf8Length pre + utf8Length pending := by
          have := utf8LengthPos empty
          omega
        rw [if_pos inside, List.singleton_append, mapMFlattenCons, mapMFlattenCons, after]
        simp [FragmentWrite.text?, slice, escapes]

theorem boundaryOfSplit {run : List Char} (pre rest : List Char) (split : run = pre ++ rest) :
    IsCharBoundary run (utf8Length pre) :=
  ⟨pre, rest, split, rfl⟩

theorem slicesOfPending (rest : List Char) : ∀ pre pending : List Char, run = pre ++ pending ++ rest →
    ∀ start stop, .slice start stop ∈ fragmentWrites (utf8Length run) (utf8Length pre)
      (charIndices (utf8Length pre + utf8Length pending) rest) →
        start < stop ∧ IsCharBoundary run start ∧ IsCharBoundary run stop := by
  induction rest with
  | nil =>
    intro pre pending split start stop taken
    have whole : utf8Length run = utf8Length pre + utf8Length pending := by simp [split]
    simp only [charIndices, fragmentWrites, whole] at taken
    split at taken
    · next inside =>
      obtain ⟨rfl, rfl⟩ : start = utf8Length pre ∧ stop = utf8Length pre + utf8Length pending := by
        simpa using taken
      refine ⟨inside, boundaryOfSplit pre pending (by simp [split]), ?_⟩
      simpa using boundaryOfSplit (pre ++ pending) [] (by simp [split])
    · cases taken
  | cons c rest ih =>
    intro pre pending split start stop taken
    simp only [charIndices, fragmentWrites] at taken
    split at taken
    · -- the character joins the pending run
      have moved := ih pre (pending ++ [c]) (by simp [split]) start stop
      rw [utf8LengthAppend, utf8LengthCons, utf8LengthNil, ← Nat.add_assoc, Nat.add_zero] at moved
      exact moved taken
    · -- a slice of the pending run, the character's escapes, or a slice after it
      have past : utf8Length (pre ++ pending ++ [c]) = utf8Length pre + utf8Length pending + c.utf8Size := by
        simp [Nat.add_assoc]
      rcases List.mem_append.mp taken with pendingSlice | later
      · split at pendingSlice
        · next inside =>
          obtain ⟨rfl, rfl⟩ : start = utf8Length pre ∧ stop = utf8Length pre + utf8Length pending := by
            simpa using pendingSlice
          refine ⟨inside, boundaryOfSplit pre (pending ++ c :: rest) (by simp [split]), ?_⟩
          simpa using boundaryOfSplit (pre ++ pending) (c :: rest) (by simp [split])
        · cases pendingSlice
      · have after := ih (pre ++ pending ++ [c]) [] (by simp [split]) start stop
        rw [past, utf8LengthNil, Nat.add_zero] at after
        simp only [List.mem_cons, reduceCtorEq, false_or] at later
        exact after later

theorem writeFragmentEq (f : Formatter) (run : List Char) : f.writeFragment run = some (f.fragmentText run) := by
  unfold Formatter.writeFragment
  cases escaping : f.escapeNonAscii
  · simp [Formatter.fragmentText, escaping]
  · have whole := textOfPending run run [] [] (by simp) (by simp)
    simp only [utf8LengthNil, Nat.add_zero, List.nil_append] at whole
    simp [whole, fragmentTextEscaping escaping]

end Loop

theorem escapingLoopWritesEachChar (f : Formatter) (run : List Char) :
    f.writeFragment run = some (if f.escapeNonAscii then
      run.flatMap fun c => if ' ' ≤ c ∧ c ≤ '~' then [c] else (utf16Units c).flatMap unitEscape
    else run) ∧
    ∀ start stop, .slice start stop ∈ fragmentWrites (utf8Length run) 0 (charIndices 0 run) →
      start < stop ∧ IsCharBoundary run start ∧ IsCharBoundary run stop := by
  refine ⟨writeFragmentEq f run, fun start stop taken => ?_⟩
  have slices := slicesOfPending run run [] [] (by simp) start stop
  simp only [utf8LengthNil, Nat.add_zero] at slices
  exact slices taken

theorem escapingCafeSlicesCaf :
    FragmentWrite.slice 0 3 ∈ fragmentWrites (utf8Length "café".toList) 0 (charIndices 0 "café".toList) ∧
      0 < 3 ∧ IsCharBoundary "café".toList 0 ∧ IsCharBoundary "café".toList 3 :=
  ⟨by decide, (escapingLoopWritesEachChar ⟨0, false, true⟩ "café".toList).2 0 3 (by decide)⟩

end SourceBundle.Json
