import SourceBundle.Json.Value
import SourceBundle.Number.Text
/-! The indented JSON layout. A nonempty array or object opens its bracket, puts each item on a
line of its own indented four spaces per level (items apart by `,`), and closes on a line at its
own level; an empty one is `[]` or `{}`. A key and its value are joined by a bare `:`.

Strings escape `"` and `\` by a backslash, the controls `\b \f \n \r \t` by their letters and the
other characters below U+0020 as `\u00XX`. With `escapeNonAscii` every other character outside
`' '..'~'` is written as `\uXXXX`, in UTF-16 units, so the text is pure ASCII. Hex digits are
lowercase. -/
namespace SourceBundle.Json

structure Style where
  escapeNonAscii : Bool := true
  deriving DecidableEq, Repr

def hexDigit (n : Nat) : Char := if n < 10 then Char.ofNat (48 + n) else Char.ofNat (87 + n)

def unitEscape (u : Nat) : List Char :=
  ['\\', 'u', hexDigit (u / 4096 % 16), hexDigit (u / 256 % 16), hexDigit (u / 16 % 16),
    hexDigit (u % 16)]

def utf16Units (c : Char) : List Nat :=
  if c.toNat < 0x10000 then [c.toNat]
  else
    let v := c.toNat - 0x10000
    [0xD800 + v / 1024, 0xDC00 + v % 1024]

def escapeChar (style : Style) (c : Char) : List Char :=
  if c = '"' then ['\\', '"']
  else if c = '\\' then ['\\', '\\']
  else if c = '\x08' then ['\\', 'b']
  else if c = '\x0c' then ['\\', 'f']
  else if c = '\n' then ['\\', 'n']
  else if c = '\r' then ['\\', 'r']
  else if c = '\t' then ['\\', 't']
  else if c.toNat < 0x20 then unitEscape c.toNat
  else if style.escapeNonAscii && !(' ' ≤ c && c ≤ '~') then (utf16Units c).flatMap unitEscape
  else [c]

def quote (style : Style) (s : String) : List Char :=
  '"' :: s.toList.flatMap (escapeChar style) ++ ['"']

def Number.text : Number → String
  | .int n => toString n
  | .float x => x.dataText

def indent (level : Nat) : List Char := (List.replicate level "    ").flatMap String.toList

def itemStart (level : Nat) (first : Bool) : List Char :=
  (if first then ['\n'] else [',', '\n']) ++ indent level

mutual
def Value.layout (style : Style) (level : Nat) : Value → List Char
  | .null => "null".toList
  | .bool b => (if b then "true" else "false").toList
  | .number n => n.text.toList
  | .string s => quote style s
  | .array [] => ['[', ']']
  | .array (x :: xs) =>
    '[' :: layoutItems style (level + 1) true (x :: xs) ++ '\n' :: indent level ++ [']']
  | .object [] => ['{', '}']
  | .object (m :: ms) =>
    '{' :: layoutMembers style (level + 1) true (m :: ms) ++ '\n' :: indent level ++ ['}']

def layoutItems (style : Style) (level : Nat) (first : Bool) : List Value → List Char
  | [] => []
  | x :: xs => itemStart level first ++ x.layout style level ++ layoutItems style level false xs

def layoutMembers (style : Style) (level : Nat) (first : Bool) : List (String × Value) → List Char
  | [] => []
  | (k, v) :: ms =>
    itemStart level first ++ quote style k ++ ':' :: v.layout style level ++
      layoutMembers style level false ms
end

end SourceBundle.Json
