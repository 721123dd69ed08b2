import SourceBundle.Json.Value
/-! Reading JSON text into values.

Whole numbers without a fraction or an exponent stay whole when they fit: any that fits 64
unsigned bits, and negative ones down to `-2^63`; `-0` is the float `-0.0`. Every other number
becomes a binary64 float by a fixed recipe: the decimal digits are gathered into a significand
until one more would pass `2^64 - 1` (later digits are dropped, and whole-part ones counted into
the exponent); the significand is rounded to binary64 and then multiplied or divided, with
rounding, by the binary64 nearest to `10^|e|` for `|e| ≤ 308`. Smaller exponents divide by `1e308`
first, as often as needed; larger ones are out of range, as is a product that overflows. An
exponent too large for 32 bits gives zero when negative (or for a zero significand) and is out of
range otherwise. Object members are sorted by key, a later member replacing an earlier one of the
same key. At most 127 arrays and objects may be open at once.

A text that is not JSON is refused with a `ReadError`: its cause, and the input left where the
refusal is reported. Its message names the line, from 1, and the column, in bytes from the start
of the line: a refusal at a character names the column of that character's first byte, one at
the end of the text the length of the last line. -/
namespace SourceBundle.Json

def u64Max : Nat := Nat.pow 2 64 - 1

def i32Max : Nat := Nat.pow 2 31 - 1

def passes (limit acc d : Nat) : Bool := limit / 10 ≤ acc && (limit / 10 < acc || limit % 10 < d)

def digitOf? (c : Char) : Option Nat := if '0' ≤ c ∧ c ≤ '9' then some (c.toNat - 48) else none

def signedBy (negative : Bool) (x : Binary64) : Binary64 := if negative then x.neg else x

def powerOfTen (k : Nat) : Binary64 := (Binary64.ofNat (Nat.pow 10 k)).getD default

inductive ReadCause where
  | endInValue
  | endInString
  | endInList
  | endInObject
  | expectedValue
  | expectedWord
  | expectedListSeparator
  | expectedObjectSeparator
  | expectedColon
  | keyNotString
  | trailingComma
  | trailingCharacters
  | invalidEscape
  | controlInString
  | loneSurrogate
  | unfinishedSurrogate
  | invalidNumber
  | numberOutOfRange
  | tooDeep
  deriving DecidableEq, Repr

def ReadCause.message : ReadCause → String
  | endInValue => "EOF while parsing a value"
  | endInString => "EOF while parsing a string"
  | endInList => "EOF while parsing a list"
  | endInObject => "EOF while parsing an object"
  | expectedValue => "expected value"
  | expectedWord => "expected ident"
  | expectedListSeparator => "expected `,` or `]`"
  | expectedObjectSeparator => "expected `,` or `\x7d`"
  | expectedColon => "expected `:`"
  | keyNotString => "key must be a string"
  | trailingComma => "trailing comma"
  | trailingCharacters => "trailing characters"
  | invalidEscape => "invalid escape"
  | controlInString => "control character (\\u0000-\\u001F) found while parsing a string"
  | loneSurrogate => "lone leading surrogate in hex escape"
  | unfinishedSurrogate => "unexpected end of hex escape"
  | invalidNumber => "invalid number"
  | numberOutOfRange => "number out of range"
  | tooDeep => "recursion limit exceeded"

structure ReadError where
  cause : ReadCause
  rest : List Char
  atNext : Bool
  deriving DecidableEq, Repr

def ReadError.atChar (cause : ReadCause) (rest : List Char) : ReadError := ⟨cause, rest, true⟩

def ReadError.past (cause : ReadCause) (rest : List Char) : ReadError := ⟨cause, rest, false⟩

def ReadError.position (text : String) (e : ReadError) : Nat × Nat :=
  let bytes := text.toList.flatMap String.utf8EncodeChar
  let read := bytes.length - (e.rest.flatMap String.utf8EncodeChar).length
  let before := bytes.take (min bytes.length (if e.atNext then read + 1 else read))
  (1 + (before.filter (· == 10)).length, (before.reverse.takeWhile (· != 10)).length)

def ReadError.message (text : String) (e : ReadError) : String :=
  let (line, column) := e.position text
  e.cause.message ++ " at line " ++ toString line ++ " column " ++ toString column

def scaleByTen (f : Binary64) : Nat → Int → Option Binary64
  | 0, _ => none
  | fuel + 1, e =>
    if e.natAbs ≤ 308 then
      if 0 ≤ e then f.mul (powerOfTen e.natAbs)
      else some ((f.div (powerOfTen e.natAbs)).getD default)
    else if f.isZero then some f
    else if 0 ≤ e then none
    else scaleByTen ((f.div (powerOfTen 308)).getD default) fuel (e + 308)

def floatOfParts (negative : Bool) (sig : Nat) (e : Int) (rest : List Char) :
    Except ReadError (Number × List Char) :=
  match scaleByTen ((Binary64.ofNat sig).getD default) (e.natAbs / 308 + 2) e with
  | some f => .ok (.float (signedBy negative f), rest)
  | none => .error (.past .numberOutOfRange rest)

def saturate (e : Int) : Int := max (-(i32Max : Int) - 1) (min i32Max e)

def skipDigits (cs : List Char) : List Char := cs.dropWhile fun c => (digitOf? c).isSome

def exponentDigits (negative : Bool) (sig : Nat) (start : Int) (up : Bool) :
    Nat → List Char → Except ReadError (Number × List Char)
  | e, c :: rest =>
    match digitOf? c with
    | some d =>
      if passes i32Max e d then
        if sig ≠ 0 ∧ up then .error (.past .numberOutOfRange rest)
        else .ok (.float (signedBy negative ⟨false, 0⟩), skipDigits rest)
      else exponentDigits negative sig start up (e * 10 + d) rest
    | none => floatOfParts negative sig (saturate (if up then start + e else start - e)) (c :: rest)
  | e, [] => floatOfParts negative sig (saturate (if up then start + e else start - e)) []

def exponentPart (negative : Bool) (sig : Nat) (start : Int) (cs : List Char) :
    Except ReadError (Number × List Char) :=
  let (up, cs) := match cs with
    | '+' :: r => (true, r)
    | '-' :: r => (false, r)
    | r => (true, r)
  match cs with
  | c :: rest =>
    match digitOf? c with
    | some d => exponentDigits negative sig start up d rest
    | none => .error (.atChar .invalidNumber (c :: rest))
  | [] => .error (.past .endInValue [])

def afterSignificand (negative : Bool) (sig : Nat) (e : Int) :
    List Char → Except ReadError (Number × List Char)
  | c :: rest =>
    if c = 'e' ∨ c = 'E' then exponentPart negative sig e rest
    else floatOfParts negative sig e (c :: rest)
  | [] => floatOfParts negative sig e []

def fractionDigits (negative : Bool) (before : Int) :
    Nat → Int → List Char → Except ReadError (Number × List Char)
  | sig, after, c :: rest =>
    match digitOf? c with
    | some d =>
      if passes u64Max sig d then afterSignificand negative sig (before + after) (skipDigits rest)
      else fractionDigits negative before (sig * 10 + d) (after - 1) rest
    | none =>
      if after = 0 then .error (.atChar .invalidNumber (c :: rest))
      else afterSignificand negative sig (before + after) (c :: rest)
  | sig, after, [] =>
    if after = 0 then .error (.past .endInValue [])
    else afterSignificand negative sig (before + after) []

def afterWhole (negative : Bool) (sig : Nat) (e : Int) :
    List Char → Except ReadError (Number × List Char)
  | '.' :: rest => fractionDigits negative e sig 0 rest
  | cs => afterSignificand negative sig e cs

def droppedDigits (negative : Bool) (sig : Nat) :
    Nat → List Char → Except ReadError (Number × List Char)
  | e, c :: rest =>
    if (digitOf? c).isSome then droppedDigits negative sig (e + 1) rest
    else afterWhole negative sig e (c :: rest)
  | e, [] => afterWhole negative sig e []

def wholeNumber (negative : Bool) (sig : Nat) : Number :=
  if !negative then .int sig
  else if sig = 0 then .float ⟨true, 0⟩
  else if sig ≤ Nat.pow 2 63 then .int (-(sig : Int))
  else .float (signedBy true ((Binary64.ofNat sig).getD default))

def afterInteger (negative : Bool) (sig : Nat) : List Char → Except ReadError (Number × List Char)
  | '.' :: rest => fractionDigits negative 0 sig 0 rest
  | c :: rest =>
    if c = 'e' ∨ c = 'E' then exponentPart negative sig 0 rest
    else .ok (wholeNumber negative sig, c :: rest)
  | [] => .ok (wholeNumber negative sig, [])

def integerDigits (negative : Bool) : Nat → List Char → Except ReadError (Number × List Char)
  | sig, c :: rest =>
    match digitOf? c with
    | some d =>
      if passes u64Max sig d then droppedDigits negative sig 0 (c :: rest)
      else integerDigits negative (sig * 10 + d) rest
    | none => afterInteger negative sig (c :: rest)
  | sig, [] => afterInteger negative sig []

def readNumber (cs : List Char) : Except ReadError (Number × List Char) :=
  let (negative, cs) := match cs with
    | '-' :: r => (true, r)
    | r => (false, r)
  match cs with
  | '0' :: rest =>
    match rest with
    | c :: _ =>
      if (digitOf? c).isSome then .error (.atChar .invalidNumber rest)
      else afterInteger negative 0 rest
    | [] => afterInteger negative 0 []
  | c :: rest =>
    match digitOf? c with
    | some d => integerDigits negative d rest
    | none => .error (.atChar .invalidNumber (c :: rest))
  | [] => .error (.past .endInValue [])

def isSpace (c : Char) : Bool := c = ' ' || c = '\n' || c = '\t' || c = '\r'

def hexOf? (c : Char) : Option Nat :=
  if '0' ≤ c ∧ c ≤ '9' then some (c.toNat - 48)
  else if 'a' ≤ c ∧ c ≤ 'f' then some (c.toNat - 87)
  else if 'A' ≤ c ∧ c ≤ 'F' then some (c.toNat - 55)
  else none

def hexValue? (a b c d : Char) : Option Nat :=
  match hexOf? a, hexOf? b, hexOf? c, hexOf? d with
  | some w, some x, some y, some z => some (((w * 16 + x) * 16 + y) * 16 + z)
  | _, _, _, _ => none

def escapeOf? (c : Char) : Option Char :=
  if c = '"' then some '"' else if c = '\\' then some '\\' else if c = '/' then some '/'
  else if c = 'b' then some '\x08' else if c = 'f' then some '\x0c'
  else if c = 'n' then some '\n' else if c = 'r' then some '\r'
  else if c = 't' then some '\t' else none

def isHighSurrogate (u : Nat) : Bool := 0xD800 ≤ u && u < 0xDC00

def isLowSurrogate (u : Nat) : Bool := 0xDC00 ≤ u && u < 0xE000

def stringChars : List Char → List Char → Except ReadError (List Char × List Char)
  | acc, '"' :: rest => .ok (acc.reverse, rest)
  | acc, '\\' :: 'u' :: a :: b :: c :: d :: rest =>
    match hexValue? a b c d with
    | none => .error (.past .invalidEscape rest)
    | some u =>
      if isLowSurrogate u then .error (.past .loneSurrogate rest)
      else if isHighSurrogate u then
        match rest with
        | '\\' :: 'u' :: e :: f :: g :: h :: more =>
          match hexValue? e f g h with
          | none => .error (.past .invalidEscape more)
          | some v =>
            if isLowSurrogate v then
              stringChars (Char.ofNat (0x10000 + (u - 0xD800) * 1024 + (v - 0xDC00)) :: acc) more
            else .error (.past .loneSurrogate more)
        | '\\' :: 'u' :: _ => .error (.past .endInString [])
        | '\\' :: x :: more => .error (.atChar .unfinishedSurrogate (x :: more))
        | '\\' :: [] => .error (.past .endInString [])
        | x :: more => .error (.atChar .unfinishedSurrogate (x :: more))
        | [] => .error (.past .endInString [])
      else stringChars (Char.ofNat u :: acc) rest
  | _, '\\' :: 'u' :: _ => .error (.past .endInString [])
  | acc, '\\' :: c :: rest =>
    match escapeOf? c with
    | some e => stringChars (e :: acc) rest
    | none => .error (.atChar .invalidEscape (c :: rest))
  | _, '\\' :: [] => .error (.past .endInString [])
  | acc, c :: rest =>
    if c.toNat < 0x20 then .error (.atChar .controlInString (c :: rest))
    else stringChars (c :: acc) rest
  | _, [] => .error (.past .endInString [])
termination_by _ cs => cs.length
decreasing_by all_goals simp_all <;> omega

def skipSpace (cs : List Char) : List Char := cs.dropWhile isSpace

def restOfWord : List Char → List Char → Except ReadError (List Char)
  | [], cs => .ok cs
  | _ :: _, [] => .error (.past .endInValue [])
  | l :: ls, c :: cs => if l = c then restOfWord ls cs else .error (.atChar .expectedWord (c :: cs))

mutual
def readValue : Nat → Nat → List Char → Except ReadError (Value × List Char)
  | 0, _, cs => .error (.atChar .tooDeep cs)
  | fuel + 1, room, cs =>
    match skipSpace cs with
    | 'n' :: rest => do return (.null, ← restOfWord ['u', 'l', 'l'] rest)
    | 't' :: rest => do return (.bool true, ← restOfWord ['r', 'u', 'e'] rest)
    | 'f' :: rest => do return (.bool false, ← restOfWord ['a', 'l', 's', 'e'] rest)
    | '"' :: rest => do
      let (s, r) ← stringChars [] rest
      return (.string (String.ofList s), r)
    | '[' :: rest =>
      if room = 0 then .error (.atChar .tooDeep ('[' :: rest))
      else match skipSpace rest with
        | ']' :: r => .ok (.array [], r)
        | [] => .error (.past .endInList [])
        | _ => readItems fuel (room - 1) [] rest
    | '{' :: rest =>
      if room = 0 then .error (.atChar .tooDeep ('{' :: rest))
      else match skipSpace rest with
        | '}' :: r => .ok (.object [], r)
        | [] => .error (.past .endInObject [])
        | _ => readMembers fuel (room - 1) [] rest
    | [] => .error (.past .endInValue [])
    | c :: rest =>
      if c = '-' ∨ (digitOf? c).isSome then do
        let (n, r) ← readNumber (c :: rest)
        return (.number n, r)
      else .error (.atChar .expectedValue (c :: rest))

def readItems : Nat → Nat → List Value → List Char → Except ReadError (Value × List Char)
  | 0, _, _, cs => .error (.atChar .tooDeep cs)
  | fuel + 1, room, acc, cs => do
    let (v, r) ← readValue fuel room cs
    match skipSpace r with
    | ',' :: r' =>
      match skipSpace r' with
      | ']' :: r'' => .error (.atChar .trailingComma (']' :: r''))
      | [] => .error (.past .endInValue [])
      | _ => readItems fuel room (v :: acc) r'
    | ']' :: r' => .ok (.array (v :: acc).reverse, r')
    | [] => .error (.past .endInList [])
    | c :: r' => .error (.atChar .expectedListSeparator (c :: r'))

def readMembers : Nat → Nat → List (String × Value) → List Char →
    Except ReadError (Value × List Char)
  | 0, _, _, cs => .error (.atChar .tooDeep cs)
  | fuel + 1, room, acc, cs =>
    match skipSpace cs with
    | '"' :: rest => do
      let (k, r) ← stringChars [] rest
      match skipSpace r with
      | ':' :: r' => do
        let (v, r'') ← readValue fuel room r'
        let acc := insertSorted (String.ofList k) v acc
        match skipSpace r'' with
        | ',' :: r3 =>
          match skipSpace r3 with
          | '}' :: r4 => .error (.atChar .trailingComma ('}' :: r4))
          | [] => .error (.past .endInValue [])
          | _ => readMembers fuel room acc r3
        | '}' :: r3 => .ok (.object acc, r3)
        | [] => .error (.past .endInObject [])
        | c :: r3 => .error (.atChar .expectedObjectSeparator (c :: r3))
      | [] => .error (.past .endInObject [])
      | c :: r' => .error (.atChar .expectedColon (c :: r'))
    | [] => .error (.past .endInValue [])
    | c :: rest => .error (.atChar .keyNotString (c :: rest))
end

def Value.parse? (s : String) : Except ReadError Value := do
  -- each nested value starts past a character already read, so the text runs out before the fuel
  let (v, rest) ← readValue (s.length + 1) 127 s.toList
  match skipSpace rest with
  | [] => .ok v
  | c :: r => .error (.atChar .trailingCharacters (c :: r))

end SourceBundle.Json
