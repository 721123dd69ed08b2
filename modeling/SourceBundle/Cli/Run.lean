import SourceBundle.Cli.Help
import SourceBundle.Cli.Complete
import SourceBundle.Config.Load
import SourceBundle.Gather.Collect
import SourceBundle.Host.Write
/-! A run of the program on a machine, from its command line to its exit code, its two output
streams and the machine it leaves.

A refused command line prints its usage error and exits with 2; help and the version print to
the output stream and exit with 0. Otherwise the run logs at the level asked for (`-q` none,
then warnings, `-v` information, `-vv` debugging, `-vvv` tracing), either prints a completion
script or packs: it finds the project root, reads the configuration, lays the command-line
settings over it, gathers the sources and writes the document to the output stream or to the
file given with `-o`, making its directories. A failure prints `Error: ` and the chain of what
was being done, down to the failure and its system cause, and exits with 1 for a configuration
failure and 2 for any other. -/
namespace SourceBundle.Cli

inductive Event where
  | log (r : Record)
  | stderr (text : String)
  | stdout (text : String)
  deriving DecidableEq, Repr

structure Trouble where
  contexts : List String
  failure : Failure
  deriving DecidableEq, Repr

namespace Trouble

def text (t : Trouble) : String :=
  ": ".intercalate (t.contexts ++ [t.failure.message] ++ (t.failure.cause?.map (·.message)).toList)

def code (t : Trouble) : Nat :=
  match t.failure with
  | .config _ | .configSyntax _ => 1
  | _ => 2

end Trouble

structure Effects where
  events : List Event
  host : Host

abbrev Console := ExceptT Trouble (StateM Effects)

def emit (e : Event) : Console Unit := modify fun s => { s with events := s.events ++ [e] }

def machine : Console Host := return (← get).host

def onMachine (x : ExceptT Failure (StateM Host) α) : Console α := do
  let s ← get
  let (r, h) := x.run.run s.host
  set { s with host := h }
  match r with
  | .ok a => pure a
  | .error f => throw ⟨[], f⟩

def note (level : Level) (target message : String) : Console Unit := emit (.log ⟨level, target, message⟩)

def logged (x : Logged α) : Console α := do
  let (a, j) := x.run []
  j.forM fun r => emit (.log r)
  return a

def attempt (x : ExceptT Failure Logged α) : Console α := do
  match ← logged x.run with
  | .ok a => return a
  | .error f => throw ⟨[], f⟩

def context (what : String) (x : Console α) : Console α :=
  tryCatch x fun t => throw { t with contexts := what :: t.contexts }

def mainTarget : String := "srcpack"

def packTarget : String := "srcpack::commands::pack"

def outputTarget : String := "srcpack::output"

def shownOption (o : Option String) : String :=
  match o with
  | some s => "Some(" ++ Escaped.quote s ++ ")"
  | none => "None"

def shownRecord (name : String) (fields : List (String × String)) : String :=
  name ++ " \x7b " ++ ", ".intercalate (fields.map fun (f, v) => f ++ ": " ++ v) ++ " \x7d"

def Args.describe (a : Args) : String :=
  let completion := match a.completion with
    | some s => "Some(" ++ s.shown ++ ")"
    | none => "None"
  shownRecord "Cli" [
    ("project_config", shownRecord "ProjectConfigOpts" [("root", shownOption a.root),
      ("config", shownOption a.config), ("no_config", toString a.noConfig)]),
    ("collect", shownRecord "CollectOpts" [("manifest", shownOption a.manifest),
      ("exclude", Escaped.list a.exclude), ("skip_unreadable", toString a.skipUnreadable)]),
    ("output", shownRecord "OutputOpts" [("output", shownOption a.output),
      ("unicode", toString a.unicode)]),
    ("completion", completion), ("verbose", toString a.verbose), ("quiet", toString a.quiet)]

def Args.logRank (a : Args) : Nat :=
  if a.quiet then 0
  else match a.verbose with
    | 0 => 2
    | 1 => 3
    | 2 => 4
    | _ => 5

def rankName : Nat → String
  | 0 => "Off"
  | 1 => "Error"
  | 2 => "Warn"
  | 3 => "Info"
  | 4 => "Debug"
  | _ => "Trace"

def fileSettings (h : Host) (root : OsPath) (a : Args) : Console FileConfig := do
  let path ← context "Failed to resolve configuration path"
    (attempt (h.configPath? root (a.config.map OsPath.ofString) a.noConfig))
  match path with
  | some p => context s!"Failed to load config from {p.display}" (attempt (h.loadFileConfig p))
  | none => pure {}

def overlay (a : Args) (file : FileConfig) : Console (CollectConfig × Json.Style) := do
  note .trace mainTarget "Applying CLI overrides to config..."
  let c ← logged (CollectConfig.ofFile file)
  let c := match a.manifest with
    | some m => { c with manifestPath := m }
    | none => c
  let c ← logged (c.addExcludes a.exclude)
  let c := if a.skipUnreadable then { c with policy := .skip } else c
  let escape := if a.unicode then false else file.escapeUnicode.getD true
  let style := shownRecord "JsonStyle" [("escape_non_ascii", toString escape)]
  note .trace mainTarget s!"Config after CLI overrides: {c.describe}, {style}"
  return (c, ⟨escape⟩)

def settings (h : Host) (root : OsPath) (a : Args) : Console (CollectConfig × Json.Style) := do
  overlay a (← fileSettings h root a)

def makeParents (path : OsPath) : ExceptT Failure (StateM Host) Unit :=
  match path.parent.filter (!·.bytes.isEmpty) with
  | some parent => ExceptT.mk fun h =>
    let (made, t) := (Tree.makeDirAll h.cwd parent).run.run h.tree
    (made.mapError (.fileWrite parent), { h with tree := t })
  | none => pure ()

def writeText (path : OsPath) (text : String) : ExceptT Failure (StateM Host) Unit :=
  ExceptT.mk fun h =>
    match h.tree.writeFile h.cwd path (Utf8.encode text) with
    | .ok t => (.ok (), { h with tree := t })
    | .error e => (.error (.fileWrite path e), h)

def saveText (path : OsPath) (text : String) : ExceptT Failure (StateM Host) Unit := do
  makeParents path
  writeText path text

def deliver (a : Args) (rendered : String) : Console Unit :=
  match a.output with
  | some out => do
    let path := OsPath.ofString out
    onMachine (saveText path rendered)
    note .debug outputTarget s!"Wrote {rendered.utf8ByteSize} bytes to {path.display}"
    if !a.quiet then emit (.stderr s!"✅ Bundle saved to: {path.display}\n")
  | none => emit (.stdout (if rendered.endsWith "\n" then rendered else rendered ++ "\n"))

def pack (a : Args) : Console Unit := do
  let h ← machine
  let root ← context "Failed to determine project root"
    (attempt (liftM (h.projectRoot? a.root) : ExceptT Failure Logged OsPath))
  note .info packTarget s!"Project root determined: {root.display}"
  let (c, style) ← context "Failed to load configuration" (settings h root a)
  let bundle ← context s!"Failed to collect sources under {root.display}" (attempt (gather h root c))
  deliver a (bundle.toJson style)

def session (a : Args) : Console Unit := do
  note .trace mainTarget s!"Logger initialized with level: {rankName a.logRank}"
  note .debug mainTarget s!"CLI args parsed: {a.describe}"
  match a.completion with
  | some sh =>
    note .debug mainTarget s!"Generating {sh.name} completions..."
    emit (.stdout (completionScript sh))
  | none =>
    note .debug mainTarget "Executing pack..."
    pack a

structure Outcome where
  code : Nat
  stdout : String
  stderr : String
  host : Host

def recordLine (r : Record) : String :=
  let label := r.level.label
  "[" ++ label ++ spaces (5 - label.length) ++ " " ++ r.target ++ "] " ++ r.message ++ "\n"

def run (h : Host) (words : List String) : Outcome :=
  match parse words with
  | .help long => ⟨0, helpPage long, "", h⟩
  | .version => ⟨0, versionLine, "", h⟩
  | .refused r => ⟨2, "", r.message, h⟩
  | .run a =>
    let (result, done) := (session a).run.run ⟨[], h⟩
    let (code, events) := match result with
      | .ok () =>
        (0, done.events ++ [Event.log ⟨.info, mainTarget, "Application finished successfully."⟩])
      | .error t => (t.code, done.events ++ [Event.stderr ("Error: " ++ t.text ++ "\n")])
    let events := events ++ [Event.log ⟨.debug, mainTarget, s!"Exiting with code {code}"⟩]
    let out := String.join (events.filterMap fun (e : Event) =>
      match e with
      | .stdout s => some s
      | _ => none)
    let err := String.join (events.filterMap fun (e : Event) =>
      match e with
      | .stderr s => some s
      | .log r => if r.level.rank ≤ a.logRank then some (recordLine r) else none
      | .stdout _ => none)
    ⟨code, out, err, done.host⟩

end SourceBundle.Cli
