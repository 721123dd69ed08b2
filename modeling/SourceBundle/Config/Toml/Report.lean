import SourceBundle.Config.Toml.Grammar
/-! How complaints about a TOML document read.

A stop reads as `invalid <label>` for the first label among its notes, then `expected ...` with
everything looked for, then its cause, each on its own line. A complaint that points into the
text starts with the line and column it points at (both from 1; the column counts characters),
the line itself, and carets under the span, at least one and no further than the line's end. -/
namespace SourceBundle.Toml

def Expectation.shown : Expectation → String
  | .char '\n' => "newline"
  | .char c => if c.toNat == 96 then "'`'" else "`" ++ c.toString ++ "`"
  | .text s => "`" ++ s ++ "`"
  | .description s => s

def Stop.message (s : Stop) : String :=
  let labels := s.notes.filterMap fun | .label w => some w | _ => none
  let expected := s.notes.filterMap fun | .expected e => some e.shown | _ => none
  let parts := (labels.head?.map fun w => "invalid " ++ w).toList ++
    (if expected.isEmpty then [] else ["expected " ++ ", ".intercalate expected]) ++ s.cause.toList
  "\n".intercalate parts

def Fault.message : Fault → String
  | .stop s => s.message
  | .conflict c => c.message

def isContinuation (b : UInt8) : Bool := 0x80 ≤ b && b < 0xC0

def Stop.span (s : Stop) (raw : List UInt8) : Span :=
  let inside := if s.offset < raw.length then (raw.take (s.offset + 1)).reverse.takeWhile isContinuation
    else []
  let start := s.offset - inside.length
  let rest := raw.drop start
  match rest with
  | [] => ⟨start, start⟩
  | _ :: more => ⟨start, start + 1 + (more.takeWhile isContinuation).length⟩

def position (raw : List UInt8) (index : Nat) : Nat × Nat :=
  if raw.isEmpty then (0, index)
  else
    let safe := min index (raw.length - 1)
    let before := raw.take safe
    let lineStart := before.length - (before.reverse.takeWhile (· != 10)).length
    let line := (raw.take lineStart).count 10
    let column := match Utf8.decode? ((raw.drop lineStart).take (safe - lineStart + 1)) with
      | some s => s.length - 1
      | none => safe - lineStart
    (line, column + (index - safe))

def report (raw : String) (message : String) (span : Option Span) : String :=
  match span with
  | none => message ++ "\n"
  | some sp =>
    let (line, column) := position (Utf8.encode raw) sp.start
    let lineNum := line + 1
    let gutter := (toString lineNum).length
    let content := ((raw.splitOn "\n").drop line).head?.getD ""
    let highlight := min (sp.stop - sp.start) (content.utf8ByteSize - column)
    let pad (n : Nat) := String.ofList (List.replicate n ' ')
    s!"TOML parse error at line {lineNum}, column {column + 1}\n" ++
      pad (gutter + 1) ++ "|\n" ++
      s!"{lineNum} | " ++ content ++ "\n" ++
      pad (gutter + 1) ++ "|" ++ pad (column + 1) ++ "^" ++
      String.ofList (List.replicate (highlight - 1) '^') ++ "\n" ++
      message ++ "\n"

end SourceBundle.Toml
