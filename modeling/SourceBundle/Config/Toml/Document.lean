import SourceBundle.Number.Binary64
/-! TOML documents as read: every value keeps the span of its text, every key the span of its
name, so that a later complaint about either can point at it.

A table keeps its entries in the order they were made, and two flags: `implicit` for a table
only made to hold a deeper one (`[a.b]` makes `a`; `a.b = 1` makes `a`), and `dotted` for one
made by a dotted key. An array of tables is kept as its list of tables. -/
namespace SourceBundle.Toml

structure Span where
  start : Nat
  stop : Nat
  deriving DecidableEq, Repr, Inhabited

structure Key where
  name : String
  span : Span
  deriving DecidableEq, Repr, Inhabited

inductive FloatValue where
  | finite (x : Binary64)
  | infinite (negative : Bool)
  | nan (negative : Bool)
  deriving DecidableEq, Repr, Inhabited

inductive Value where
  | string (s : String) (span : Span)
  | integer (n : Int) (span : Span)
  | float (x : FloatValue) (span : Span)
  | boolean (b : Bool) (span : Span)
  | datetime (span : Span)
  | array (items : List Value) (span : Span)
  | inline (entries : List (Key × Value)) (dotted : Bool) (span : Option Span)
  deriving Inhabited

mutual

inductive Item where
  | value (v : Value)
  | table (t : Table)
  | tables (ts : List Table) (span : Option Span)

inductive Table where
  | mk (entries : List (Key × Item)) (implicit dotted : Bool) (span : Option Span)

end

namespace Value

def span? : Value → Option Span
  | .string _ s | .integer _ s | .float _ s | .boolean _ s | .datetime s | .array _ s => some s
  | .inline _ _ s => s

def typeName : Value → String
  | .string .. => "string"
  | .integer .. => "integer"
  | .float .. => "float"
  | .boolean .. => "boolean"
  | .datetime .. => "datetime"
  | .array .. => "array"
  | .inline .. => "inline table"

end Value

namespace Table

def empty : Table := .mk [] false false none

instance : Inhabited Table := ⟨empty⟩

def entries : Table → List (Key × Item)
  | .mk es _ _ _ => es

def implicit : Table → Bool
  | .mk _ i _ _ => i

def dotted : Table → Bool
  | .mk _ _ d _ => d

def span : Table → Option Span
  | .mk _ _ _ s => s

def withEntries (t : Table) (es : List (Key × Item)) : Table := .mk es t.implicit t.dotted t.span

def withSpan (t : Table) (s : Option Span) : Table := .mk t.entries t.implicit t.dotted s

def find? (t : Table) (name : String) : Option Item :=
  (t.entries.find? fun e => e.1.name == name).map (·.2)

def push (t : Table) (k : Key) (item : Item) : Table := t.withEntries (t.entries ++ [(k, item)])

def replace (t : Table) (name : String) (item : Item) : Table :=
  t.withEntries (t.entries.map fun e => if e.1.name == name then (e.1, item) else e)

def erase (t : Table) (name : String) : Table :=
  t.withEntries (t.entries.filter fun e => e.1.name != name)

end Table

namespace Item

def span? : Item → Option Span
  | .value v => v.span?
  | .table t => t.span
  | .tables _ s => s

def typeName : Item → String
  | .value v => v.typeName
  | .table _ => "table"
  | .tables .. => "array of tables"

end Item

end SourceBundle.Toml
