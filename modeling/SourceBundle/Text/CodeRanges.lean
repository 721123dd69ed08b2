/-! Sets of code points as sorted inclusive ranges, written compactly as text: ranges are
separated by commas, and a range is one hex number or two joined by `-`. -/
namespace SourceBundle.CodeRanges

def hexDigit (c : Char) : Nat :=
  if '0' ≤ c ∧ c ≤ '9' then c.toNat - 48
  else if 'a' ≤ c ∧ c ≤ 'f' then c.toNat - 87
  else if 'A' ≤ c ∧ c ≤ 'F' then c.toNat - 55
  else 0

def hexValue (cs : List Char) : Nat := cs.foldl (fun n c => 16 * n + hexDigit c) 0

def rangeOf (text : String) : Nat × Nat :=
  match text.splitOn "-" with
  | [a, b] => (hexValue a.toList, hexValue b.toList)
  | _ => let a := hexValue text.toList; (a, a)

def ofText (text : String) : List (Nat × Nat) :=
  ((text.splitOn ",").filter (· != "")).map rangeOf

def ofLines (lines : List String) : List (Nat × Nat) := lines.flatMap ofText

def contains (ranges : List (Nat × Nat)) (n : Nat) : Bool :=
  ranges.any fun (a, b) => a ≤ n && n ≤ b

end SourceBundle.CodeRanges
