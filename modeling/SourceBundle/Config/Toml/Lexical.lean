import SourceBundle.Config.Toml.Reader
import SourceBundle.Text.Utf8
/-! The small pieces of TOML text: blanks, comments and line ends, the four kinds of string,
numbers, dates and times, and keys.

Strings give their text with escapes resolved; an escape naming a character that does not
exist, or an unknown escape letter, ends the reading. Integers must fit 64 signed bits. A float
is the binary64 nearest to its decimal value; one too large for binary64 ends the reading when
positive, while a negative one becomes negative infinity. Dates and times are checked field by
field (a day past the month's end too) but give no value, since no setting takes one. -/
namespace SourceBundle.Toml

open Reader

def ascii (c : Char) : UInt8 := c.toNat.toUInt8

def charOf (b : UInt8) : Char := Char.ofNat b.toNat

def isWsChar (b : UInt8) : Bool := b == 32 || b == 9

def isNonAscii (b : UInt8) : Bool := 128 ≤ b

def isNonEol (b : UInt8) : Bool := b == 9 || (32 ≤ b && b ≤ 126) || isNonAscii b

def isBasicUnescaped (b : UInt8) : Bool :=
  isWsChar b || b == 33 || (35 ≤ b && b ≤ 91) || (93 ≤ b && b ≤ 126) || isNonAscii b

def isLiteralChar (b : UInt8) : Bool :=
  b == 9 || (32 ≤ b && b ≤ 38) || (40 ≤ b && b ≤ 126) || isNonAscii b

def isDigit (b : UInt8) : Bool := 48 ≤ b && b ≤ 57

def isHexDigit (b : UInt8) : Bool := isDigit b || (65 ≤ b && b ≤ 70) || (97 ≤ b && b ≤ 102)

def isOctDigit (b : UInt8) : Bool := 48 ≤ b && b ≤ 55

def isBinDigit (b : UInt8) : Bool := b == 48 || b == 49

def isUnquotedChar (b : UInt8) : Bool :=
  (65 ≤ b && b ≤ 90) || (97 ≤ b && b ≤ 122) || isDigit b || b == 45 || b == 95

def digitValue (b : UInt8) : Nat :=
  if isDigit b then b.toNat - 48
  else if 97 ≤ b then b.toNat - 87
  else b.toNat - 55

def digitsValue (base : Nat) (ds : List UInt8) : Nat :=
  ds.foldl (fun acc d => acc * base + digitValue d) 0

/-! ### Blanks, comments and line ends -/

def ws : Reader Unit := do
  let _ ← runWhile isWsChar

def ws1 : Reader Unit := do
  let _ ← check (runWhile isWsChar) (!·.isEmpty)

def comment : Reader Unit := do
  byte (ascii '#')
  let _ ← runWhile isNonEol

def newline : Reader Unit := do
  match charOf (← anyByte) with
  | '\n' => pure ()
  | '\r' => byte (ascii '\n')
  | _ => fail

def wsNewline : Reader Unit := do
  let _ ← many (alt [newline, ws1])

def wsNewlines : Reader Unit := do
  newline
  wsNewline

def commentLinesFor : Nat → Reader Unit
  | 0 => pure ()
  | fuel + 1 => do
    ws
    match (← peekByte).map charOf with
    | some '#' => do comment; newline; commentLinesFor fuel
    | some '\n' | some '\r' => do newline; commentLinesFor fuel
    | _ => pure ()

def wsCommentNewline : Reader Unit := fun c => commentLinesFor (c.rest.length + 1) c

def lineEnding : Reader Unit := alt [newline, atEnd]

def lineTrailing : Reader Unit := do
  ws
  let _ ← opt comment
  lineEnding

/-! ### Strings -/

def hexEscape (n : Nat) : Reader Char :=
  tryMap (check (runOf isHexDigit 0 n) (·.length == n)) fun ds =>
    let v := digitsValue 16 ds
    if v < 0xD800 ∨ (0xDFFF < v ∧ v ≤ 0x10FFFF) then .ok (Char.ofNat v)
    else .error "value is out of range"

def escapeSeqChar : Reader Char := do
  match charOf (← anyByte) with
  | 'b' => pure '\x08'
  | 'f' => pure '\x0c'
  | 'n' => pure '\n'
  | 'r' => pure '\r'
  | 't' => pure '\t'
  | 'u' => label "unicode 4-digit hex code" (cut (hexEscape 4))
  | 'U' => label "unicode 8-digit hex code" (cut (hexEscape 8))
  | '\\' => pure '\\'
  | '"' => pure '"'
  | _ =>
    ['b', 'f', 'n', 'r', 't', 'u', 'U', '\\', '"'].foldl (fun r c => expect (.char c) r)
      (label "escape sequence" (cut fail))

def escaped : Reader Char := do
  byte (ascii '\\')
  escapeSeqChar

def basicChars : Reader String :=
  alt [Utf8.lossy <$> check (runWhile isBasicUnescaped) (!·.isEmpty), Char.toString <$> escaped]

def basicString : Reader String := do
  byte (ascii '"')
  let parts ← many basicChars
  label "basic string" (cut (byte (ascii '"')))
  return String.join parts

def escapedNewline : Reader Unit := do
  let _ ← many1 (do byte (ascii '\\'); ws; wsNewlines)

def mlbContent : Reader String :=
  alt [Utf8.lossy <$> check (runWhile isBasicUnescaped) (!·.isEmpty),
    (fun _ => "") <$> escapedNewline,
    Char.toString <$> escaped,
    (fun _ => "\n") <$> newline]

def quotesBefore (q : UInt8) (term : Reader Unit) : Reader String := fun c =>
  match (do literal [q, q]; peek term) c with
  | .ok _ c' => .ok (String.ofList [charOf q, charOf q]) c'
  | .hard s => .hard s
  | .soft _ =>
    match (do byte q; peek term) c with
    | .ok _ c' => .ok (charOf q).toString c'
    | .soft s => .soft s
    | .hard s => .hard s

def noneOf (q : UInt8) : Reader Unit := do
  let _ ← byteIf (· != q)

def mlbQuotedFor : Nat → Reader String
  | 0 => pure ""
  | fuel + 1 => do
    match ← opt (quotesBefore (ascii '"') (noneOf (ascii '"'))) with
    | none => pure ""
    | some q =>
      match ← opt mlbContent with
      | none => pure ""
      | some first =>
        let more ← many mlbContent
        let rest ← mlbQuotedFor fuel
        return q ++ first ++ String.join more ++ rest

def mlbBody : Reader String := do
  let first ← many mlbContent
  let middle ← fun c => mlbQuotedFor (c.rest.length + 1) c
  let last ← opt (quotesBefore (ascii '"') (literal [34, 34, 34]))
  return String.join first ++ middle ++ last.getD ""

def mlBasicString : Reader String :=
  label "multiline basic string" do
    literal [34, 34, 34]
    let _ ← opt newline
    let body ← cut mlbBody
    cut (literal [34, 34, 34])
    return body

def literalString : Reader String :=
  label "literal string" do
    byte (ascii '\'')
    let bs ← cut (runWhile isLiteralChar)
    cut (byte (ascii '\''))
    return Utf8.lossy bs

def isMllChar (b : UInt8) : Bool := isLiteralChar b

def mllContent : Reader Unit := alt [do let _ ← byteIf isMllChar, newline]

def mllBody : Reader (List UInt8) :=
  taken do
    let _ ← many mllContent
    let _ ← many (do let _ ← quotesBefore (ascii '\'') (noneOf (ascii '\'')); let _ ← many1 mllContent)
    let _ ← opt (quotesBefore (ascii '\'') (literal [39, 39, 39]))

def mlLiteralString : Reader String :=
  label "multiline literal string" do
    literal [39, 39, 39]
    let _ ← opt newline
    let body ← cut mllBody
    cut (literal [39, 39, 39])
    return (Utf8.lossy body).replace "\r\n" "\n"

def string : Reader String := alt [mlBasicString, basicString, mlLiteralString, literalString]

/-! ### Numbers -/

def i64Min : Int := -Int.ofNat (Nat.pow 2 63)

def i64Max : Int := Int.ofNat (Nat.pow 2 63 - 1)

def moreDigits (isD : UInt8 → Bool) : Reader Unit := do
  let _ ← many (alt [do let _ ← byteIf isD,
    do let _ ← byteIf (· == ascii '_'); let _ ← expect (.description "digit") (cut (byteIf isD))])

def isSign (b : UInt8) : Bool := b == ascii '+' || b == ascii '-'

def decInt : Reader (List UInt8) :=
  label "integer" <| taken do
    let _ ← opt (byteIf isSign)
    alt [do let _ ← byteIf (fun b => 49 ≤ b && b ≤ 57); moreDigits isDigit,
      do let _ ← byteIf isDigit]

def prefixedInt (pfx : List UInt8) (isD : UInt8 → Bool) (what : String) : Reader (List UInt8) :=
  label what do
    literal pfx
    taken (cut do let _ ← byteIf isD; moreDigits isD)

def decimalValue (bs : List UInt8) : Except String Int :=
  let ds := bs.filter (· != ascii '_')
  let negative := ds.head? == some (ascii '-')
  let v := digitsValue 10 (ds.filter isDigit)
  if negative then
    if Nat.pow 2 63 < v then .error "number too small to fit in target type" else .ok (-(v : Int))
  else if Nat.pow 2 63 - 1 < v then .error "number too large to fit in target type"
  else .ok v

def radixValue (base : Nat) (bs : List UInt8) : Except String Int :=
  let v := digitsValue base (bs.filter (· != ascii '_'))
  if Nat.pow 2 63 - 1 < v then .error "number too large to fit in target type" else .ok v

def integer : Reader Int := fun c =>
  match c.rest.take 2 |>.map charOf with
  | ['0', 'x'] => cut (tryMap (prefixedInt [48, 120] isHexDigit "hexadecimal integer") (radixValue 16)) c
  | ['0', 'o'] => cut (tryMap (prefixedInt [48, 111] isOctDigit "octal integer") (radixValue 8)) c
  | ['0', 'b'] => cut (tryMap (prefixedInt [48, 98] isBinDigit "binary integer") (radixValue 2)) c
  | _ => settle decInt (fun bs => (decimalValue bs).mapError some) c

def zeroPrefixableInt : Reader Unit := do
  let _ ← byteIf isDigit
  moreDigits isDigit

def frac : Reader Unit := do
  byte (ascii '.')
  expect (.description "digit") (cut zeroPrefixableInt)

def exp : Reader Unit := do
  let _ ← byteIf (fun b => b == ascii 'e' || b == ascii 'E')
  let _ ← opt (byteIf isSign)
  cut zeroPrefixableInt

def floatText : Reader (List UInt8) :=
  taken do
    let _ ← decInt
    alt [exp, do frac; let _ ← opt exp]

def nearestFloat (negative : Bool) (m : Nat) (e : Int) : FloatValue :=
  if m = 0 then .finite ⟨negative, 0⟩
  else
    let size : Int := (Nat.toDigits 10 m).length
    if 310 < size + e then .infinite negative
    else if size + e < -330 then .finite ⟨negative, 0⟩
    else
      let r := if 0 ≤ e then Binary64.ofFraction negative (m * Nat.pow 10 e.toNat) 1
        else Binary64.ofFraction negative m (Nat.pow 10 (-e).toNat)
      match r with
      | some x => .finite x
      | none => .infinite negative

def floatValue (bs : List UInt8) : FloatValue :=
  let ds := bs.filter (· != ascii '_')
  let negative := ds.head? == some (ascii '-')
  let body := ds.dropWhile isSign
  let whole := body.takeWhile isDigit
  let afterWhole := body.drop whole.length
  let fraction := if afterWhole.head? == some (ascii '.') then (afterWhole.drop 1).takeWhile isDigit else []
  let afterFraction := if afterWhole.head? == some (ascii '.') then afterWhole.drop (1 + fraction.length) else afterWhole
  let e : Int := match afterFraction with
    | _ :: es =>
      let down := es.head? == some (ascii '-')
      let v : Int := digitsValue 10 (es.filter isDigit)
      if down then -v else v
    | [] => 0
  nearestFloat negative (digitsValue 10 (whole ++ fraction)) (e - fraction.length)

def specialFloat : Reader FloatValue := do
  let s ← opt (byteIf isSign)
  let negative := s == some (ascii '-')
  alt [do literal [105, 110, 102]; pure (.infinite negative),
    do literal [110, 97, 110]; pure (.nan negative)]

def float : Reader FloatValue :=
  label "floating-point number" <| alt [
    settle floatText fun bs =>
      match floatValue bs with
      | .infinite false => .error none
      | v => .ok v,
    specialFloat]

def trueValue : Reader Bool := do
  let _ ← peek (byteIf (· == ascii 't'))
  cut (literal [116, 114, 117, 101])
  return true

def falseValue : Reader Bool := do
  let _ ← peek (byteIf (· == ascii 'f'))
  cut (literal [102, 97, 108, 115, 101])
  return false

/-! ### Dates and times -/

def digitsExactly (n : Nat) : Reader Nat := digitsValue 10 <$> runOf isDigit n n

def twoDigitsWithin (lo hi : Nat) : Reader Nat :=
  tryMap (digitsExactly 2) fun v => if lo ≤ v ∧ v ≤ hi then .ok v else .error "value is out of range"

def daysIn (year month : Nat) : Nat :=
  if month = 2 then
    if year % 4 = 0 ∧ (year % 100 ≠ 0 ∨ year % 400 = 0) then 29 else 28
  else if month = 4 ∨ month = 6 ∨ month = 9 ∨ month = 11 then 30 else 31

def fullDate : Reader Unit := do
  let year ← digitsExactly 4
  byte (ascii '-')
  let month ← cut (twoDigitsWithin 1 12)
  cut (byte (ascii '-'))
  let dayStart ← offset
  let day ← cut (twoDigitsWithin 1 31)
  if daysIn year month < day then
    fun _ => .hard { offset := dayStart, cause := some "value is out of range" }
  else pure ()

def partialTime : Reader Unit := do
  let _ ← twoDigitsWithin 0 23
  byte (ascii ':')
  cut do
    let _ ← twoDigitsWithin 0 59
    byte (ascii ':')
    let _ ← twoDigitsWithin 0 60
    let _ ← opt (do byte (ascii '.'); let _ ← check (runWhile isDigit) (!·.isEmpty))

def timeOffset : Reader Unit :=
  label "time offset" <| alt [do let _ ← byteIf (fun b => b == ascii 'Z' || b == ascii 'z'),
    do
      let _ ← byteIf isSign
      cut do
        let _ ← twoDigitsWithin 0 23
        byte (ascii ':')
        let _ ← twoDigitsWithin 0 59]

def dateTime : Reader Unit :=
  alt [label "date-time" do
      fullDate
      let _ ← opt do
        let _ ← byteIf (fun b => b == ascii 'T' || b == ascii 't' || b == 32)
        partialTime
        let _ ← opt timeOffset,
    label "time" partialTime]

/-! ### Keys -/

def simpleKey : Reader Key := do
  let (name, span) ← spanned fun c =>
    match c.rest.head?.map charOf with
    | some '"' => basicString c
    | some '\'' => literalString c
    | some _ => (Utf8.lossy <$> check (runWhile isUnquotedChar) (!·.isEmpty)) c
    | none => fail c
  return ⟨name, span⟩

def keyDepthLimit : Nat := 80

def key : Reader (List Key) :=
  tryMap (label "key" (sepBy1 (do ws; let k ← simpleKey; ws; pure k) (byte (ascii '.'))))
    fun ks => if keyDepthLimit ≤ ks.length then .error "recursion limit exceeded" else .ok ks

end SourceBundle.Toml
