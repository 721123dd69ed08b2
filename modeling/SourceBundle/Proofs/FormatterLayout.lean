import Mathlib
import SourceBundle.Bundle.Document
import SourceBundle.Proofs.FragmentSlices
/-! The formatter writes the indented layout. Driven by the hooks the serializer calls for a value,
the formatter writes exactly `Value.layout`, whatever the nesting: the flag it shares between all
levels is, when a container closes, set exactly when the container has an item, since every item
ends by setting it and every opening clears it. The level it keeps goes up at each opening and
back down at the matching closing, so it is never decremented at zero.

Main statement: `renderLayout`. -/
namespace SourceBundle.Json

def Hook.closes : Hook → Bool
  | .endArray | .endObject => true
  | _ => false

namespace Formatter

def states (f : Formatter) : List Hook → List (Formatter × Hook)
  | [] => []
  | h :: hs => (f, h) :: (f.step h).1.states hs

theorem runAppend (f : Formatter) (hs hs' : List Hook) :
    f.run (hs ++ hs') = ((f.run hs).1.run hs' |>.1, (f.run hs).2 ++ ((f.run hs).1.run hs').2) := by
  induction hs generalizing f with
  | nil => rfl
  | cons h hs ih => simp [run, ih]

theorem statesAppend (f : Formatter) (hs hs' : List Hook) :
    f.states (hs ++ hs') = f.states hs ++ (f.run hs).1.states hs' := by
  induction hs generalizing f with
  | nil => rfl
  | cons h hs ih => simp [states, run, ih]

theorem fragmentTextAppend (f : Formatter) (run run' : List Char) :
    f.fragmentText (run ++ run') = f.fragmentText run ++ f.fragmentText run' := by
  unfold fragmentText
  split <;> simp

end Formatter

theorem charEscapeTextEq {c : Char} (escaped : escapedBySerializer c = true) (style : Style) :
    Formatter.charEscapeText c = escapeChar style c := by
  simp only [escapedBySerializer, Bool.or_eq_true, decide_eq_true_eq] at escaped
  unfold Formatter.charEscapeText escapeChar
  split_ifs <;> simp_all

theorem fragmentTextSingle {f : Formatter} {style : Style} (same : f.escapeNonAscii = style.escapeNonAscii)
    {c : Char} (plain : escapedBySerializer c = false) : f.fragmentText [c] = escapeChar style c := by
  simp only [escapedBySerializer, Bool.or_eq_false_iff, decide_eq_false_iff_not] at plain
  obtain ⟨⟨notQuote, notBackslash⟩, notControl⟩ := plain
  have notEscape : c ≠ '\x08' ∧ c ≠ '\x0c' ∧ c ≠ '\n' ∧ c ≠ '\r' ∧ c ≠ '\t' := by
    refine ⟨?_, ?_, ?_, ?_, ?_⟩ <;> (rintro rfl; simp at notControl)
  simp only [Formatter.fragmentText, escapeChar, same, notQuote, notBackslash, notControl, notEscape,
    if_false, List.flatMap_cons, List.flatMap_nil, List.append_nil]
  cases style.escapeNonAscii
  · rfl
  · by_cases range : ' ' ≤ c ∧ c ≤ '~'
    · simp [range.1, range.2]
    · have outside : (decide (' ' ≤ c) && decide (c ≤ '~')) = false := by simpa using range
      simp only [if_true, range, if_false, outside, Bool.not_false, Bool.and_self]

section Strings
variable {f : Formatter} {style : Style} (same : f.escapeNonAscii = style.escapeNonAscii)
include same

theorem runFlushRun (run : List Char) : f.run (flushRun run) = (f, f.fragmentText run) := by
  unfold flushRun
  split
  · next empty => simp_all [Formatter.run, Formatter.fragmentText]
  · simp [Formatter.run, Formatter.step, writeFragmentEq]

theorem runStringPieces (cs : List Char) : ∀ run : List Char,
    f.run (stringPieces run cs) = (f, f.fragmentText run ++ cs.flatMap (escapeChar style)) := by
  induction cs with
  | nil => intro run; simp [stringPieces, runFlushRun same]
  | cons c cs ih =>
    intro run
    unfold stringPieces
    split
    · next escaped =>
      rw [Formatter.runAppend, runFlushRun same]
      simp [Formatter.run, Formatter.step, ih, charEscapeTextEq escaped style, Formatter.fragmentText]
    · next plain =>
      rw [ih, Formatter.fragmentTextAppend, fragmentTextSingle same (by simpa using plain)]
      simp

theorem runStringHooks (s : String) : f.run (stringHooks s) = (f, quote style s) := by
  simp [stringHooks, Formatter.run, Formatter.step, Formatter.runAppend, runStringPieces same,
    quote, Formatter.fragmentText]

end Strings

def Value.flagAfter : Value → Bool → Bool
  | .array [], _ | .object [], _ => false
  | .array _, _ | .object _, _ => true
  | _, had => had

def flagAfterItems {α} (xs : List α) (had : Bool) : Bool := if xs.isEmpty then had else true

section Layout
variable (style : Style)

mutual
theorem runHooks : ∀ (v : Value) (f : Formatter), f.escapeNonAscii = style.escapeNonAscii →
    f.run v.hooks = ({ f with hasValue := v.flagAfter f.hasValue }, v.layout style f.indent)
  | .null, f, _ | .bool _, f, _ | .number _, f, _ => by
    simp [Value.hooks, Formatter.run, Formatter.step, Value.flagAfter, Value.layout]
  | .string s, f, same => by simp [Value.hooks, runStringHooks same, Value.flagAfter, Value.layout]
  | .array [], f, _ | .object [], f, _ => by
    simp [Value.hooks, Formatter.run, Formatter.step, Formatter.beginNested, Formatter.endNested,
      Value.flagAfter, Value.layout]
  | .array (x :: xs), f, same => by
    have items := runItemHooks true (x :: xs) { f with indent := f.indent + 1, hasValue := false } same
    simp [Value.hooks, Formatter.runAppend, Formatter.run, Formatter.step, Formatter.beginNested, items,
      flagAfterItems, Formatter.endNested, Value.flagAfter, Value.layout]
  | .object (m :: ms), f, same => by
    have members := runMemberHooks true (m :: ms) { f with indent := f.indent + 1, hasValue := false } same
    simp [Value.hooks, Formatter.runAppend, Formatter.run, Formatter.step, Formatter.beginNested,
      members, flagAfterItems, Formatter.endNested, Value.flagAfter, Value.layout]

theorem runItemHooks : ∀ (first : Bool) (xs : List Value) (f : Formatter),
    f.escapeNonAscii = style.escapeNonAscii →
    f.run (itemHooks first xs) = ({ f with hasValue := flagAfterItems xs f.hasValue },
      layoutItems style f.indent first xs)
  | _, [], f, _ => by simp [itemHooks, Formatter.run, flagAfterItems, layoutItems]
  | first, x :: xs, f, same => by
    have value := runHooks x f same
    have rest := runItemHooks false xs { f with hasValue := true } same
    simp [itemHooks, Formatter.run, Formatter.step, Formatter.runAppend, value, rest, flagAfterItems,
      layoutItems, Formatter.beginItem, itemStart]

theorem runMemberHooks : ∀ (first : Bool) (ms : List (String × Value)) (f : Formatter),
    f.escapeNonAscii = style.escapeNonAscii →
    f.run (memberHooks first ms) = ({ f with hasValue := flagAfterItems ms f.hasValue },
      layoutMembers style f.indent first ms)
  | _, [], f, _ => by simp [memberHooks, Formatter.run, flagAfterItems, layoutMembers]
  | first, (k, v) :: ms, f, same => by
    have value := runHooks v f same
    have rest := runMemberHooks false ms { f with hasValue := true } same
    simp [memberHooks, Formatter.run, Formatter.step, Formatter.runAppend, runStringHooks same, value,
      rest, flagAfterItems, layoutMembers, Formatter.beginItem, itemStart]
end


def ClosesAbove (level : Nat) (f : Formatter) (hs : List Hook) : Prop :=
  ∀ p ∈ f.states hs, p.2.closes → level < p.1.indent

theorem closesAboveNil (level : Nat) (f : Formatter) : ClosesAbove level f [] := by
  simp [ClosesAbove, Formatter.states]

theorem closesAboveCons {level : Nat} {f : Formatter} {h : Hook} {hs : List Hook}
    (here : h.closes → level < f.indent) (rest : ClosesAbove level (f.step h).1 hs) :
    ClosesAbove level f (h :: hs) := by
  intro p mem closes
  rcases List.mem_cons.mp mem with rfl | later
  · exact here closes
  · exact rest p later closes

theorem closesAboveAppend {level : Nat} {f : Formatter} {hs hs' : List Hook}
    (first : ClosesAbove level f hs) (rest : ClosesAbove level (f.run hs).1 hs') :
    ClosesAbove level f (hs ++ hs') := by
  intro p mem closes
  rw [Formatter.statesAppend, List.mem_append] at mem
  rcases mem with early | late
  · exact first p early closes
  · exact rest p late closes

theorem closesAboveMono {level level' : Nat} {f : Formatter} {hs : List Hook} (le : level' ≤ level)
    (above : ClosesAbove level f hs) : ClosesAbove level' f hs :=
  fun p mem closes => Nat.lt_of_le_of_lt le (above p mem closes)

theorem closesAboveOfForall {level : Nat} : ∀ {f : Formatter} {hs : List Hook},
    (∀ h ∈ hs, h.closes = false) → ClosesAbove level f hs
  | f, [], _ => closesAboveNil level f
  | f, h :: hs, calm =>
    closesAboveCons (by simp [calm h List.mem_cons_self])
      (closesAboveOfForall fun h' mem => calm h' (List.mem_cons_of_mem h mem))

theorem closesStringPieces (cs : List Char) : ∀ run : List Char, ∀ h ∈ stringPieces run cs,
    h.closes = false := by
  induction cs with
  | nil =>
    intro run h mem
    simp only [stringPieces, flushRun] at mem
    split at mem <;> simp_all [Hook.closes]
  | cons c cs ih =>
    intro run h mem
    unfold stringPieces at mem
    split at mem
    · simp only [List.mem_append, List.mem_cons, flushRun] at mem
      rcases mem with flushed | rfl | later
      · split at flushed <;> simp_all [Hook.closes]
      · rfl
      · exact ih [] h later
    · exact ih _ h mem

theorem closesStringHooks (s : String) : ∀ h ∈ stringHooks s, h.closes = false := by
  intro h mem
  simp only [stringHooks, List.cons_append, List.mem_cons, List.mem_append] at mem
  rcases mem with rfl | inner | rfl | nothing
  · rfl
  · exact closesStringPieces _ [] h inner
  · rfl
  · simp at nothing

mutual
theorem closesAboveHooks : ∀ (v : Value) (f : Formatter), f.escapeNonAscii = style.escapeNonAscii →
    ClosesAbove f.indent f v.hooks
  | .null, _, _ | .bool _, _, _ | .number _, _, _ => closesAboveOfForall (by simp [Value.hooks, Hook.closes])
  | .string s, _, _ => closesAboveOfForall (closesStringHooks s)
  | .array [], f, _ | .object [], f, _ =>
    closesAboveCons (by simp [Hook.closes]) (closesAboveCons (fun _ => by
      simp [Formatter.step, Formatter.beginNested]) (closesAboveNil _ _))
  | .array (x :: xs), f, same => by
    let inner : Formatter := { f with indent := f.indent + 1, hasValue := false }
    have items := closesAboveItemHooks true (x :: xs) inner same
    refine closesAboveCons (by simp [Hook.closes]) (closesAboveAppend
      (closesAboveMono (by simp [inner]) items) (closesAboveCons (fun _ => ?_) (closesAboveNil _ _)))
    simp [Formatter.step, Formatter.beginNested, runItemHooks style true (x :: xs) inner same, inner]
  | .object (m :: ms), f, same => by
    let inner : Formatter := { f with indent := f.indent + 1, hasValue := false }
    have members := closesAboveMemberHooks true (m :: ms) inner same
    refine closesAboveCons (by simp [Hook.closes]) (closesAboveAppend
      (closesAboveMono (by simp [inner]) members) (closesAboveCons (fun _ => ?_) (closesAboveNil _ _)))
    simp [Formatter.step, Formatter.beginNested, runMemberHooks style true (m :: ms) inner same, inner]

theorem closesAboveItemHooks : ∀ (first : Bool) (xs : List Value) (f : Formatter),
    f.escapeNonAscii = style.escapeNonAscii → ClosesAbove f.indent f (itemHooks first xs)
  | _, [], f, _ => closesAboveNil _ _
  | first, x :: xs, f, same => by
    have value := closesAboveHooks x f same
    have rest := closesAboveItemHooks false xs { f with hasValue := true } same
    refine closesAboveCons (by simp [Hook.closes]) (closesAboveAppend value ?_)
    rw [Formatter.step, runHooks style x f same]
    exact closesAboveCons (by simp [Hook.closes]) rest

theorem closesAboveMemberHooks : ∀ (first : Bool) (ms : List (String × Value)) (f : Formatter),
    f.escapeNonAscii = style.escapeNonAscii → ClosesAbove f.indent f (memberHooks first ms)
  | _, [], f, _ => closesAboveNil _ _
  | first, (k, v) :: ms, f, same => by
    have value := closesAboveHooks v f same
    have rest := closesAboveMemberHooks false ms { f with hasValue := true } same
    simp only [memberHooks, List.cons_append, List.append_assoc]
    refine closesAboveCons (by simp [Hook.closes]) (closesAboveAppend
      (closesAboveOfForall (closesStringHooks k)) ?_)
    rw [Formatter.step, runStringHooks same]
    refine closesAboveCons (by simp [Hook.closes]) (closesAboveCons (by simp [Hook.closes])
      (closesAboveAppend value ?_))
    simp only [Formatter.step]
    rw [runHooks style v f same]
    exact closesAboveCons (by simp [Hook.closes]) rest
end

theorem renderEqLayout (v : Value) : v.render style = String.ofList (v.layout style 0) := by
  rw [Value.render, runHooks style v _ rfl]
  rfl

end Layout

theorem renderLayout (style : Style) :
    (∀ v : Value, v.render style = String.ofList (v.layout style 0) ∧
      ClosesAbove 0 (Formatter.new style) v.hooks ∧ ((Formatter.new style).run v.hooks).1.indent = 0) ∧
    ∀ b : Bundle, b.toJson style = String.ofList (b.toValue.layout style 0) ++ "\n" := by
  refine ⟨fun v => ⟨renderEqLayout style v, closesAboveHooks style v _ rfl, ?_⟩, fun b => ?_⟩
  · rw [runHooks style v _ rfl]
    rfl
  · rw [Bundle.toJson, renderEqLayout]

-- an empty array between two members stays `[]`, and the member after it starts its own line
example : (Value.object [("a", .array []), ("b", .string "é")]).render {} =
    "\x7b\n    \"a\":[],\n    \"b\":\"\\u00e9\"\n\x7d" := by decide

end SourceBundle.Json
