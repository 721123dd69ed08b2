import SourceBundle.Text.GraphemeExtend
import SourceBundle.Text.Printable
/-! Text in double quotes for diagnostics: `"` and `\` get a backslash, NUL, tab, carriage return
and line feed are written `\0 \t \r \n`, and a character that does not print on its own
(`isPrintable`) or that would join the character before it (`isGraphemeExtend`) is written
`\u{…}` with its code point in lowercase hex. Everything else stands as it is. -/
namespace SourceBundle.Escaped

def hex (n : Nat) : List Char :=
  (Nat.toDigits 16 n)

def escapeChar (c : Char) : List Char :=
  if c = '\x00' then ['\\', '0']
  else if c = '\t' then ['\\', 't']
  else if c = '\r' then ['\\', 'r']
  else if c = '\n' then ['\\', 'n']
  else if c = '\\' then ['\\', '\\']
  else if c = '"' then ['\\', '"']
  else if isGraphemeExtend c || !isPrintable c then
    ['\\', 'u', '\x7b'] ++ hex c.toNat ++ ['\x7d']
  else [c]

def quote (s : String) : String := String.ofList ('"' :: s.toList.flatMap escapeChar ++ ['"'])

def list (xs : List String) : String := "[" ++ ", ".intercalate (xs.map quote) ++ "]"

def set (xs : List String) : String := "\x7b" ++ ", ".intercalate (xs.map quote) ++ "\x7d"

end SourceBundle.Escaped
