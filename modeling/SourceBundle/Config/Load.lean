import SourceBundle.Config.Toml.Report
import SourceBundle.Config.File
import SourceBundle.Config.Locate
import SourceBundle.Text.Escaped
import SourceBundle.Number.Text
/-! Reading a configuration file into its settings.

The file must be UTF-8 TOML whose root table has only the keys `manifest` (a string),
`exclude` (an array of strings), `on_read_error` (`"abort"` or `"skip"`, or a table with that
single key and an empty value) and `escape_unicode` (a boolean). The first key or value that
does not fit ends the reading, with a complaint pointing at it: a value at its own text, a key
at its name, a table without text of its own at its key. -/
namespace SourceBundle

namespace Toml

structure Complaint where
  message : String
  span : Option Span
  deriving DecidableEq, Repr

def FloatValue.shown : FloatValue → String
  | .finite x =>
    let t := x.plainText
    if t.contains '.' then t else t ++ ".0"
  | .infinite false => "inf"
  | .infinite true => "-inf"
  | .nan _ => "NaN"

def Item.unexpected : Item → String
  | .value (.string s _) => "string " ++ Escaped.quote s
  | .value (.integer n _) => s!"integer `{n}`"
  | .value (.float x _) => s!"floating point `{x.shown}`"
  | .value (.boolean b _) => s!"boolean `{b}`"
  | .value (.array ..) | .tables .. => "sequence"
  | .value (.datetime _) | .value (.inline ..) | .table _ => "map"

def wrongType (item : Item) (wanted : String) (span : Option Span) : Complaint :=
  ⟨s!"invalid type: {item.unexpected}, expected {wanted}", span⟩

def settingNames : List String := ["manifest", "exclude", "on_read_error", "escape_unicode"]

def oneOf (names : List String) : String :=
  let ticked := names.map fun n => "`" ++ n ++ "`"
  match ticked with
  | [a] => a
  | [a, b] => a ++ " or " ++ b
  | _ => "one of " ++ ", ".intercalate ticked

def stringOf (item : Item) (span : Option Span) : Except Complaint String :=
  match item with
  | .value (.string s _) => .ok s
  | _ => .error (wrongType item "a string" span)

def boolOf (item : Item) (span : Option Span) : Except Complaint Bool :=
  match item with
  | .value (.boolean b _) => .ok b
  | _ => .error (wrongType item "a boolean" span)

def stringsOf (item : Item) (span : Option Span) : Except Complaint (List String) :=
  match item with
  | .value (.array vs _) => vs.mapM fun v => stringOf (.value v) (v.span?.orElse fun _ => span)
  | .tables ts _ => ts.mapM fun t => stringOf (.table t) (t.span.orElse fun _ => span)
  | _ => .error (wrongType item "a sequence" span)

def policyNamed (name : String) (span : Option Span) : Except Complaint ReadPolicy :=
  match name with
  | "abort" => .ok .abort
  | "skip" => .ok .skip
  | _ =>
    let names := oneOf ["abort", "skip"]
    .error ⟨s!"unknown variant `{name}`, expected {names}", span⟩

def emptyVariant (item : Item) (span : Option Span) : Except Complaint Unit :=
  let at_ := item.span?.orElse fun _ => span
  match item with
  | .value (.array [] _) | .tables [] _ | .value (.inline [] _ _) => .ok ()
  | .table t => if t.entries.isEmpty then .ok () else .error ⟨"expected empty table", at_⟩
  | .tables .. => .error ⟨"expected empty array", at_⟩
  | .value (.array ..) | .value (.inline ..) => .error ⟨"expected empty table", at_⟩
  | _ => .error ⟨s!"expected table, found {item.typeName}", at_⟩

def policyOfEntries (entries : List (Key × Item)) (span : Option Span) :
    Except Complaint ReadPolicy :=
  match entries with
  | [] => .error ⟨"wanted exactly 1 element, found 0 elements", span⟩
  | [(k, item)] => do
    let p ← policyNamed k.name (some k.span)
    emptyVariant item span
    return p
  | _ => .error ⟨"wanted exactly 1 element, more than 1 element", span⟩

def policyOf (item : Item) (span : Option Span) : Except Complaint ReadPolicy :=
  match item with
  | .value (.string s _) => policyNamed s span
  | .value (.inline es _ s) =>
    policyOfEntries (es.map fun (k, v) => (k, .value v)) (s.orElse fun _ => span)
  | .table t => policyOfEntries t.entries (t.span.orElse fun _ => span)
  | _ => .error ⟨"wanted string or table", span⟩

def FileConfig.take (f : FileConfig) (entry : Key × Item) : Except Complaint FileConfig :=
  let (k, item) := entry
  let span := item.span?.orElse fun _ => some k.span
  match k.name with
  | "manifest" => return { f with manifest := some (← stringOf item span) }
  | "exclude" => return { f with exclude := ← stringsOf item span }
  | "on_read_error" => return { f with onReadError := some (← policyOf item span) }
  | "escape_unicode" => return { f with escapeUnicode := some (← boolOf item span) }
  | other => .error ⟨s!"unknown field `{other}`, expected {oneOf settingNames}", some k.span⟩

def settingsOf (root : Table) : Except Complaint FileConfig :=
  root.entries.foldlM FileConfig.take {}

def parseSettings (text : String) : Except String FileConfig :=
  let raw := Utf8.encode text
  match readDocument raw with
  | .error (.stop s) => .error (report text s.message (some (s.span raw)))
  | .error (.conflict c) => .error (report text c.message none)
  | .ok root =>
    match settingsOf root with
    | .ok f => .ok f
    | .error c => .error (report text c.message c.span)

end Toml

namespace Host

def loadFileConfig (h : Host) (path : OsPath) : ExceptT Failure Logged FileConfig := do
  say .info configTarget s!"Loading configuration from: {path.display}"
  let bytes ← match h.tree.read h.cwd path with
    | .ok bs => pure bs
    | .error e => throw (.fileRead path e)
  let some text := Utf8.decode? bytes
    | throw (.fileRead path (.other "stream did not contain valid UTF-8"))
  match Toml.parseSettings text with
  | .ok f => return f
  | .error e =>
    throw (.configSyntax
      s!"Error parsing config file '{path.display}': {e}. Check TOML syntax and structure.")

end Host

end SourceBundle
