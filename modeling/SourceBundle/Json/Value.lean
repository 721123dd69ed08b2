import SourceBundle.Number.Binary64
/-! JSON values as this library reads and writes them. A number is a whole number that fits 64
bits (signed or unsigned) or a binary64 float; an object keeps its members in the order it was
given, and objects read from text come with their keys sorted and unique. -/
namespace SourceBundle.Json

inductive Number where
  | int (n : Int)
  | float (x : Binary64)
  deriving DecidableEq, Repr

inductive Value where
  | null
  | bool (b : Bool)
  | number (n : Number)
  | string (s : String)
  | array (items : List Value)
  | object (members : List (String × Value))
  deriving Repr, Inhabited

def insertSorted (k : String) (v : Value) : List (String × Value) → List (String × Value)
  | [] => [(k, v)]
  | (k', v') :: rest =>
    if k < k' then (k, v) :: (k', v') :: rest
    else if k = k' then (k, v) :: rest
    else (k', v') :: insertSorted k v rest

def Value.field? (v : Value) (k : String) : Option Value :=
  match v with
  | .object ms => (ms.find? (·.1 == k)).map (·.2)
  | _ => none

end SourceBundle.Json
