import SourceBundle.Json.Layout
/-! Writing a value through a formatter, the way the serializer drives one. The serializer walks
the value and calls the formatter's hooks in order: around each array and object, before and
after each item, key and member value, and for each piece of a string. A string is handed over in
runs of characters the serializer leaves alone, cut at each character it escapes itself (quote,
backslash and the controls below U+0020); an empty array or object is opened and closed at once.

The formatter keeps the indentation level and one flag, shared by all levels, that tells whether
a value was written since the last container opened: a container closes on a line of its own only
when it is set. With `escapeNonAscii` it writes every character of a run outside `' '..'~'` as
`\uXXXX` units. It does so in one pass over the run by byte offset, writing the characters it
leaves alone as slices of the run between two offsets, the way a string is sliced: a slice whose
offsets do not fall between characters would stop the program. The text written is the
concatenation of what each hook writes; every piece is text, so the written bytes always read
back as UTF-8. -/
namespace SourceBundle.Json

def utf8Length : List Char → Nat
  | [] => 0
  | c :: cs => c.utf8Size + utf8Length cs

@[simp] theorem utf8LengthNil : utf8Length [] = 0 := rfl

@[simp] theorem utf8LengthCons (c : Char) (cs : List Char) :
    utf8Length (c :: cs) = c.utf8Size + utf8Length cs := rfl

@[simp] theorem utf8LengthAppend (cs ds : List Char) :
    utf8Length (cs ++ ds) = utf8Length cs + utf8Length ds := by
  induction cs with
  | nil => simp
  | cons c cs ih => simp [ih, Nat.add_assoc]

def charIndices (start : Nat) : List Char → List (Nat × Char)
  | [] => []
  | c :: cs => (start, c) :: charIndices (start + c.utf8Size) cs

def dropBytes : Nat → List Char → Option (List Char)
  | 0, cs => some cs
  | _ + 1, [] => none
  | n + 1, c :: cs => if c.utf8Size ≤ n + 1 then dropBytes (n + 1 - c.utf8Size) cs else none

def takeBytes : Nat → List Char → Option (List Char)
  | 0, _ => some []
  | _ + 1, [] => none
  | n + 1, c :: cs =>
    if c.utf8Size ≤ n + 1 then (takeBytes (n + 1 - c.utf8Size) cs).map (c :: ·) else none

def sliceBytes (cs : List Char) (start stop : Nat) : Option (List Char) :=
  if start ≤ stop then (dropBytes start cs).bind (takeBytes (stop - start)) else none

inductive FragmentWrite where
  | slice (start stop : Nat)
  | units (c : Char)
  deriving DecidableEq, Repr

def fragmentWrites (len : Nat) : Nat → List (Nat × Char) → List FragmentWrite
  | start, [] => if start < len then [.slice start len] else []
  | start, (i, c) :: rest =>
    if ' ' ≤ c ∧ c ≤ '~' then fragmentWrites len start rest
    else (if start < i then [.slice start i] else []) ++
      .units c :: fragmentWrites len (i + c.utf8Size) rest

def FragmentWrite.text? (run : List Char) : FragmentWrite → Option (List Char)
  | .slice start stop => sliceBytes run start stop
  | .units c => some ((utf16Units c).flatMap unitEscape)

inductive Hook where
  | beginArray
  | endArray
  | beginArrayValue (first : Bool)
  | endArrayValue
  | beginObject
  | endObject
  | beginObjectKey (first : Bool)
  | endObjectKey
  | beginObjectValue
  | endObjectValue
  | beginString
  | endString
  | fragment (run : List Char)
  | charEscape (c : Char)
  | null
  | bool (b : Bool)
  | number (n : Number)
  deriving Repr

structure Formatter where
  indent : Nat
  hasValue : Bool
  escapeNonAscii : Bool
  deriving DecidableEq, Repr

namespace Formatter

def new (style : Style) : Formatter := ⟨0, false, style.escapeNonAscii⟩

def beginNested (f : Formatter) (bracket : Char) : Formatter × List Char :=
  ({ f with indent := f.indent + 1, hasValue := false }, [bracket])

def endNested (f : Formatter) (bracket : Char) : Formatter × List Char :=
  let f' := { f with indent := f.indent - 1 }
  (f', (if f.hasValue then '\n' :: Json.indent f'.indent else []) ++ [bracket])

def beginItem (f : Formatter) (first : Bool) : List Char :=
  (if first then ['\n'] else [',', '\n']) ++ Json.indent f.indent

def fragmentText (f : Formatter) (run : List Char) : List Char :=
  if f.escapeNonAscii then
    run.flatMap fun c => if ' ' ≤ c ∧ c ≤ '~' then [c] else (utf16Units c).flatMap unitEscape
  else run

def writeFragment (f : Formatter) (run : List Char) : Option (List Char) :=
  if f.escapeNonAscii then
    ((fragmentWrites (utf8Length run) 0 (charIndices 0 run)).mapM (FragmentWrite.text? run)).map
      List.flatten
  else some run

def charEscapeText (c : Char) : List Char :=
  if c = '"' then ['\\', '"']
  else if c = '\\' then ['\\', '\\']
  else if c = '\x08' then ['\\', 'b']
  else if c = '\x0c' then ['\\', 'f']
  else if c = '\n' then ['\\', 'n']
  else if c = '\r' then ['\\', 'r']
  else if c = '\t' then ['\\', 't']
  else unitEscape c.toNat

def step (f : Formatter) : Hook → Formatter × List Char
  | .beginArray => f.beginNested '['
  | .endArray => f.endNested ']'
  | .beginArrayValue first => (f, f.beginItem first)
  | .endArrayValue => ({ f with hasValue := true }, [])
  | .beginObject => f.beginNested '{'
  | .endObject => f.endNested '}'
  | .beginObjectKey first => (f, f.beginItem first)
  | .endObjectKey => (f, [])
  | .beginObjectValue => (f, [':'])
  | .endObjectValue => ({ f with hasValue := true }, [])
  | .beginString => (f, ['"'])
  | .endString => (f, ['"'])
  | .fragment run => (f, (f.writeFragment run).getD [])
  | .charEscape c => (f, charEscapeText c)
  | .null => (f, "null".toList)
  | .bool b => (f, (if b then "true" else "false").toList)
  | .number n => (f, n.text.toList)

def run (f : Formatter) : List Hook → Formatter × List Char
  | [] => (f, [])
  | h :: hs =>
    let (f₁, out₁) := f.step h
    let (f₂, out₂) := f₁.run hs
    (f₂, out₁ ++ out₂)

end Formatter

def escapedBySerializer (c : Char) : Bool := c = '"' || c = '\\' || c.toNat < 0x20

def flushRun (run : List Char) : List Hook := if run.isEmpty then [] else [.fragment run]

def stringPieces (run : List Char) : List Char → List Hook
  | [] => flushRun run
  | c :: cs =>
    if escapedBySerializer c then flushRun run ++ .charEscape c :: stringPieces [] cs
    else stringPieces (run ++ [c]) cs

def stringHooks (s : String) : List Hook := .beginString :: stringPieces [] s.toList ++ [.endString]

mutual
def Value.hooks : Value → List Hook
  | .null => [.null]
  | .bool b => [.bool b]
  | .number n => [.number n]
  | .string s => stringHooks s
  | .array [] => [.beginArray, .endArray]
  | .array (x :: xs) => .beginArray :: itemHooks true (x :: xs) ++ [.endArray]
  | .object [] => [.beginObject, .endObject]
  | .object (m :: ms) => .beginObject :: memberHooks true (m :: ms) ++ [.endObject]

def itemHooks (first : Bool) : List Value → List Hook
  | [] => []
  | x :: xs => .beginArrayValue first :: x.hooks ++ .endArrayValue :: itemHooks false xs

def memberHooks (first : Bool) : List (String × Value) → List Hook
  | [] => []
  | (k, v) :: ms =>
    .beginObjectKey first :: stringHooks k ++ .endObjectKey :: .beginObjectValue :: v.hooks ++
      .endObjectValue :: memberHooks false ms
end

def Value.render (style : Style) (v : Value) : String :=
  String.ofList ((Formatter.new style).run v.hooks).2

end SourceBundle.Json
