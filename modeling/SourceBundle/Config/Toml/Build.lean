import SourceBundle.Config.Toml.Lexical
/-! Building the tables of a TOML document from its key-value pairs and headers, and the
conflicts that make a document invalid.

Pairs go into the current table: the root at first, then the table of the last header. A dotted
key walks down from there, making implicit dotted tables where keys are missing; it may not pass
through a value, nor into a table written with its own header. A header walks down from the
root the same way (its implicit tables are not dotted), then takes over a table made implicitly
by an earlier header, or starts a new one; any other entry already under its key is a conflict.
The table of a header goes into place when the next header comes or the text ends; the table
of an array header is appended to its array. -/
namespace SourceBundle.Toml

inductive Conflict where
  | duplicate (key : String) (table : Option (List String))
  | extendsValue (path : List String) (actual : String)
  deriving DecidableEq, Repr

namespace Conflict

def message : Conflict → String
  | duplicate k none => s!"duplicate key `{k}`"
  | duplicate k (some []) => s!"duplicate key `{k}` in document root"
  | duplicate k (some p) =>
    let where_ := ".".intercalate p
    s!"duplicate key `{k}` in table `{where_}`"
  | extendsValue p actual =>
    let dotted := ".".intercalate p
    s!"dotted key `{dotted}` attempted to extend non-table type ({actual})"

end Conflict

def prefersLiteral (name : String) : Bool :=
  let cs := name.toList
  let control (c : Char) := (c.toNat ≤ 0x1F || c.toNat == 0x7F) && c != '\t'
  (cs.contains '"' || cs.contains '\\') && !cs.any control && !cs.contains '\''

def keyText (name : String) : String :=
  let bs := Utf8.encode name
  if !bs.isEmpty && bs.all isUnquotedChar then name
  else
    let cs := name.toList
    let control (c : Char) := c.toNat ≤ 0x1F || c.toNat == 0x7F
    if prefersLiteral name then "'" ++ name ++ "'"
    else
      let body := cs.flatMap fun c =>
        match c with
        | '\x08' => ['\\', 'b']
        | '\t' => ['\\', 't']
        | '\n' => ['\\', 'n']
        | '\x0c' => ['\\', 'f']
        | '\r' => ['\\', 'r']
        | '"' => ['\\', '"']
        | '\\' => ['\\', '\\']
        | c =>
          if control c then
            let hex := (Nat.toDigits 16 c.toNat).map Char.toUpper
            ['\\', 'u'] ++ List.replicate (4 - hex.length) '0' ++ hex
          else [c]
      "\"" ++ String.ofList body ++ "\""

def duplicateAt (path : List Key) (i : Nat) : Conflict :=
  .duplicate (keyText ((path.drop i).head?.map (·.name) |>.getD ""))
    (some ((path.take i).map (·.name)))

def descend (dotted : Bool) (whole : List Key) (f : Table → Except Conflict (Table × α)) :
    Nat → Table → List Key → Except Conflict (Table × α)
  | _, t, [] => f t
  | i, t, k :: ks =>
    match t.find? k.name with
    | none => do
      let (child, a) ← descend dotted whole f (i + 1) (.mk [] true dotted none) ks
      return (t.push k (.table child), a)
    | some (.value v) => throw (.extendsValue ((whole.take (i + 1)).map (·.name)) v.typeName)
    | some (.tables ts span) => do
      let (last, a) ← descend dotted whole f (i + 1) (ts.getLast?.getD Table.empty) ks
      return (t.replace k.name (.tables (ts.dropLast ++ [last]) span), a)
    | some (.table child) => do
      if dotted && !child.implicit then throw (.duplicate k.name none)
      let (child, a) ← descend dotted whole f (i + 1) child ks
      return (t.replace k.name (.table child), a)

def within (dotted : Bool) (path : List Key) (f : Table → Except Conflict (Table × α)) (t : Table) :
    Except Conflict (Table × α) :=
  descend dotted path f 0 t path

def inlineInsert (whole : List Key) (k : Key) (v : Value) :
    Nat → List (Key × Value) → Bool → List Key → Except Conflict (List (Key × Value))
  | _, es, dotted, [] => do
    if dotted == whole.isEmpty then throw (.duplicate k.name none)
    if es.any (·.1.name == k.name) then throw (.duplicate k.name none)
    return es ++ [(k, v)]
  | i, es, _, p :: ps =>
    match es.find? (·.1.name == p.name) with
    | none => do
      let sub ← inlineInsert whole k v (i + 1) [] true ps
      return es ++ [(p, .inline sub true none)]
    | some (_, .inline sub d span) => do
      if !d then throw (.duplicate p.name none)
      let sub ← inlineInsert whole k v (i + 1) sub d ps
      return es.map fun e => if e.1.name == p.name then (e.1, .inline sub d span) else e
    | some (_, other) => throw (.extendsValue ((whole.take (i + 1)).map (·.name)) other.typeName)

def inlineEntries (pairs : List (List Key × Key × Value)) : Except Conflict (List (Key × Value)) :=
  pairs.foldlM (fun es (path, k, v) => inlineInsert path k v 0 es false path) []

structure Builder where
  root : Table := Table.empty
  current : Table := .mk [] false false (some ⟨0, 0⟩)
  currentPath : List Key := []
  currentIsArray : Bool := false
  deriving Inhabited

namespace Builder

def onKeyval (b : Builder) (path : List Key) (k : Key) (v : Value) : Except Conflict Builder := do
  let current := match b.current.span, v.span? with
    | some s, some vs => b.current.withSpan (some ⟨s.start, vs.stop⟩)
    | _, _ => b.current
  let (current, _) ← within true path (fun t => do
      if t.dotted == path.isEmpty then throw (.duplicate k.name none)
      if (t.find? k.name).isSome then
        throw (.duplicate k.name (some (b.currentPath.map (·.name))))
      return (t.push k (.value v), ())) current
  return { b with current }

def finalize (b : Builder) : Except Conflict Builder := do
  let table := b.current
  let path := b.currentPath
  let b := { b with current := Table.empty, currentPath := [] }
  match path.getLast? with
  | none => return { b with root := table }
  | some k =>
    let dup := duplicateAt path (path.length - 1)
    if b.currentIsArray then
      let (root, _) ← within false path.dropLast (fun parent => do
          let (parent, ts) ← match parent.find? k.name with
            | none => pure (parent.push k (.tables [] none), [])
            | some (.tables ts _) => pure (parent, ts)
            | some _ => throw dup
          let ts := ts ++ [table]
          let span := match ts.head?.bind (·.span), ts.getLast?.bind (·.span) with
            | some first, some last => some ⟨first.start, last.stop⟩
            | _, _ => none
          return (parent.replace k.name (.tables ts span), ())) b.root
      return { b with root }
    else
      let (root, _) ← within false path.dropLast (fun parent =>
          match parent.find? k.name with
          | none => return (parent.push k (.table table), ())
          | some (.table t) =>
            if t.implicit then return (parent.replace k.name (.table table), ()) else throw dup
          | some _ => throw dup) b.root
      return { b with root }

def startTable (b : Builder) (path : List Key) (span : Span) : Except Conflict Builder := do
  match path.getLast? with
  | none => return b
  | some k =>
    let (root, found) ← within false path.dropLast (fun parent =>
        match parent.find? k.name with
        | none => return (parent, none)
        | some (.table t) =>
          if t.implicit && !t.dotted then return (parent.erase k.name, some t)
          else throw (duplicateAt path (path.length - 1))
        | some _ => throw (duplicateAt path (path.length - 1))) b.root
    let entries := (found.map Table.entries).getD []
    return ⟨root, .mk entries false false (some span), path, false⟩

def startArrayTable (b : Builder) (path : List Key) (span : Span) : Except Conflict Builder := do
  match path.getLast? with
  | none => return b
  | some k =>
    let (root, _) ← within false path.dropLast (fun parent =>
        match parent.find? k.name with
        | none => return (parent.push k (.tables [] none), ())
        | some (.tables ..) => return (parent, ())
        | some _ => throw (duplicateAt path (path.length - 1))) b.root
    return ⟨root, .mk [] false false (some span), path, true⟩

def onHeader (b : Builder) (array : Bool) (path : List Key) (span : Span) :
    Except Conflict Builder := do
  let b ← b.finalize
  if array then b.startArrayTable path span else b.startTable path span

def finish (b : Builder) : Except Conflict Table := do
  return (← b.finalize).root

end Builder

end SourceBundle.Toml
