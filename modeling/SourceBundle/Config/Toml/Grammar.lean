import SourceBundle.Config.Toml.Build
/-! The grammar of TOML documents: values (arrays and inline tables nest at most 80 deep),
key-value pairs, headers, and the document as a sequence of lines.

A document may start with a byte order mark. Each line is a comment, a header, a key-value pair
or blank; a pair or a header must end its line, perhaps with a comment. A value that begins like
no value is reported as a bad string, since a missing quote is the likeliest mistake. -/
namespace SourceBundle.Toml

open Reader

def nestingLimit : Nat := 80

def tooDeep : Reader α := fun c =>
  .hard { offset := c.offset, cause := some "recursion limit exceeded" }

def asString (r : Reader α) : Reader α := expect (.char '\'') (expect (.char '"') (label "string" r))

def splitKey (ks : List Key) : List Key × Key := (ks.dropLast, ks.getLast?.getD default)

def keyvalSep : Reader Unit := do
  let _ ← expect (.char '=') (expect (.char '.') (byteIf (· == ascii '=')))

mutual

def value (room : Nat) : Reader Value := do
  let (make, span) ← spanned (valueBody room)
  return make span
termination_by (room, 3)

def valueBody (room : Nat) : Reader (Span → Value) := fun c =>
  match c.rest.head?.map charOf with
  | none => fail c
  | some ch =>
    if ch == '"' || ch == '\'' then ((fun s span => Value.string s span) <$> string) c
    else if ch == '[' then array room c
    else if ch == '{' then inlineTable room c
    else if ch == '+' || ch == '-' || ch.isDigit then
      alt [(fun _ span => Value.datetime span) <$> dateTime,
        (fun x span => Value.float x span) <$> float,
        (fun n span => Value.integer n span) <$> integer] c
    else if ch == '_' then
      expect (.description "leading digit") ((fun n span => Value.integer n span) <$> integer) c
    else if ch == '.' then
      expect (.description "leading digit") ((fun x span => Value.float x span) <$> float) c
    else if ch == 't' then asString ((fun b span => Value.boolean b span) <$> trueValue) c
    else if ch == 'f' then asString ((fun b span => Value.boolean b span) <$> falseValue) c
    else if ch == 'i' then
      asString ((fun _ span => Value.float (.infinite false) span) <$> literal [105, 110, 102]) c
    else if ch == 'n' then
      asString ((fun _ span => Value.float (.nan false) span) <$> literal [110, 97, 110]) c
    else asString fail c
termination_by (room, 2)

def array : Nat → Reader (Span → Value)
  | 0 => tooDeep
  | room + 1 => do
    byte (ascii '[')
    let items ← cut (arrayValues room)
    expect (.char ']') (label "array" (cut (byte (ascii ']'))))
    return fun span => .array items span
termination_by room => (room, 1)

def arrayValues (room : Nat) : Reader (List Value) := do
  let items ← opt do
    let vs ← sepBy1 (do wsCommentNewline; let v ← value room; wsCommentNewline; pure v)
      (byte (ascii ','))
    let _ ← opt (byte (ascii ','))
    pure vs
  wsCommentNewline
  return items.getD []
termination_by (room + 1, 0)

def inlineTable : Nat → Reader (Span → Value)
  | 0 => tooDeep
  | room + 1 => do
    byte (ascii '{')
    let entries ← cut (tryMap (inlineKeyvals room) fun pairs =>
      (inlineEntries pairs).mapError Conflict.message)
    expect (.char '}') (label "inline table" (cut (byte (ascii '}'))))
    return fun span => .inline entries false (some span)
termination_by room => (room, 1)

def inlineKeyvals (room : Nat) : Reader (List (List Key × Key × Value)) := do
  let pairs ← sepBy (do
      let ks ← key
      cut do
        keyvalSep
        ws
        let v ← value room
        ws
        let (path, k) := splitKey ks
        pure (path, k, v))
    (byte (ascii ','))
  ws
  return pairs
termination_by (room + 1, 0)

end

def keyval : Reader (List Key × Key × Value) := do
  let ks ← key
  cut do
    keyvalSep
    ws
    let v ← value (nestingLimit - 1)
    expect (.char '#') (expect (.char '\n') lineTrailing)
    let (path, k) := splitKey ks
    return (path, k, v)

def bracketed (arrayHeader : Bool) : Reader (Bool × List Key × Span) := do
  let (opening, closing, closeText) :=
    if arrayHeader then ([91, 91], [93, 93], "]]") else ([91], [93], "]")
  let (path, span) ← spanned do
    literal opening
    let path ← cut key
    expect (.text closeText) (expect (.char '.') (cut (literal closing)))
    pure path
  expect (.char '#') (expect (.char '\n') (cut lineTrailing))
  return (arrayHeader, path, span)

def header : Reader (Bool × List Key × Span) :=
  label "table header" fun c =>
    match c.rest.take 2 |>.map charOf with
    | ['[', '['] => bracketed true c
    | [_, _] => bracketed false c
    | _ => fail c

def linesFor : Nat → Builder → Reader Builder
  | 0, b => pure b
  | fuel + 1, b => fun c =>
    let next (b : Builder) (c' : Cursor) : Reply Builder :=
      (do ws; linesFor fuel b) c'
    match c.rest.head?.map charOf with
    | none => .ok b c
    | some '#' =>
      match cut (do comment; lineEnding) c with
      | .ok _ c' => next b c'
      | .soft s => .soft s
      | .hard s => .hard s
    | some '[' =>
      match cut header c with
      | .ok (arrayHeader, path, span) c' =>
        match b.onHeader arrayHeader path span with
        | .ok b => next b c'
        | .error e =>
          .hard { offset := c.offset, notes := [.label "table header"], cause := some e.message }
      | .soft s => .soft s
      | .hard s => .hard s
    | some '\n' | some '\r' =>
      match newline c with
      | .ok _ c' => next b c'
      | .soft _ => .ok b c
      | .hard s => .hard s
    | some _ =>
      match cut keyval c with
      | .ok (path, k, v) c' =>
        match b.onKeyval path k v with
        | .ok b => next b c'
        | .error e => .hard { offset := c.offset, cause := some e.message }
      | .soft s => .soft s
      | .hard s => .hard s

inductive Fault where
  | stop (s : Stop)
  | conflict (c : Conflict)
  deriving DecidableEq, Repr

def byteOrderMark : List UInt8 := [0xEF, 0xBB, 0xBF]

def readDocument (input : List UInt8) : Except Fault Table :=
  let start : Cursor :=
    if byteOrderMark.isPrefixOf input then ⟨input.drop 3, 3⟩ else ⟨input, 0⟩
  let body : Reader Builder := do
    ws
    let b ← fun c => linesFor (c.rest.length + 1) {} c
    atEnd
    return b
  match body start with
  | .ok b _ => b.finish.mapError .conflict
  | .soft s | .hard s => .error (.stop s)

end SourceBundle.Toml
