import SourceBundle.Number.Binary64
/-! Which known word a mistyped one was probably meant to be.

Words are compared by the Jaro similarity of their characters: characters match when equal and
no further apart than half the longer length less one, each used once; half the matched pairs
that appear in a different order count as transpositions. The similarity is the mean of the
matched share of each word and the share of matches in order, computed in binary64 as the
comparison that picks candidates does. A candidate must score above 0.7; the best one wins, a
later one winning a tie. -/
namespace SourceBundle.Cli

def matchMarks (a b : List Char) (range : Nat) : List Bool × List Bool :=
  let step (acc : List Bool × List Bool × Nat) (c : Char) : List Bool × List Bool × Nat :=
    let (ma, mb, i) := acc
    let lo := i - range
    let hi := min b.length (i + range + 1)
    let found := (List.range hi).find? fun j =>
      lo ≤ j && b[j]? == some c && mb[j]? == some false
    match found with
    | some j => (ma ++ [true], mb.set j true, i + 1)
    | none => (ma ++ [false], mb, i + 1)
  let (ma, mb, _) := a.foldl step ([], List.replicate b.length false, 0)
  (ma, mb)

def matchedChars (w : List Char) (marks : List Bool) : List Char :=
  (w.zip marks).filterMap fun (c, m) => if m then some c else none

def countFloat (n : Nat) : Binary64 := (Binary64.ofNat n).getD default

def ratio (n d : Nat) : Binary64 := (Binary64.ofFraction false n d).getD default

def jaro (a b : String) : Binary64 :=
  let ac := a.toList
  let bc := b.toList
  if ac.isEmpty && bc.isEmpty then countFloat 1
  else if ac.isEmpty || bc.isEmpty then countFloat 0
  else
    let range := max ac.length bc.length / 2 - 1
    let (ma, mb) := matchMarks ac bc range
    let fromA := matchedChars ac ma
    let fromB := matchedChars bc mb
    let m := fromA.length
    if m = 0 then countFloat 0
    else
      let t := ((fromA.zip fromB).filter fun (x, y) => x != y).length / 2
      let sum := ((ratio m ac.length).addSameSign (ratio m bc.length)).getD default
      let sum := (sum.addSameSign (ratio (m - t) m)).getD default
      (sum.div (countFloat 3)).getD default

def similarEnough : Binary64 := ratio 7 10

def closest (word : String) (candidates : List String) : Option String :=
  let scored := candidates.filterMap fun c =>
    let s := jaro word c
    if similarEnough.units < s.units then some (s.units, c) else none
  scored.foldl (fun best (s, c) =>
    match best with
    | some (bs, _) => if bs ≤ s then some (s, c) else best
    | none => some (s, c)) none |>.map (·.2)

end SourceBundle.Cli
