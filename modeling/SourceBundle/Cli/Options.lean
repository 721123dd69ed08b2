/-! The command line as data: each option's names, what it does with the words after it, its
help text and its section of the help. Parsing, the help pages, usage errors and the shell
completion scripts are all read off this table.

An option is written `--long`, or `-s` when it has a short name; options that take values show
their value name, `--exclude <NAME>...` for one that takes several, `--verbose...` for a counted
switch. The options are declared in sets (project, collection, output), and a set may stand in a
usage line as `<--a|--b>`. -/
namespace SourceBundle.Cli

inductive Action where
  | setTrue
  | count
  | set
  | append
  | help
  | version
  deriving DecidableEq, Repr

inductive Hint where
  | path
  | text
  deriving DecidableEq, Repr

structure Opt where
  id : String
  short : Option Char := none
  long : String
  help : String
  longHelp : Option String := none
  action : Action
  valueName : String := ""
  hint : Hint := .text
  choices : List String := []
  heading : Option String := none
  group : Option String := none
  conflicts : List String := []
  deriving DecidableEq, Repr

namespace Opt

def takesValue (o : Opt) : Bool := o.action == .set || o.action == .append

def suffix (o : Opt) : String :=
  match o.action with
  | .set => " <" ++ o.valueName ++ ">"
  | .append => " <" ++ o.valueName ++ ">..."
  | .count => "..."
  | _ => ""

def spec (o : Opt) : String := "--" ++ o.long ++ o.suffix

def fullHelp (o : Opt) : String := o.longHelp.getD o.help

end Opt

inductive Shell where
  | bash
  | elvish
  | fish
  | powershell
  | zsh
  deriving DecidableEq, Repr

namespace Shell

def name : Shell → String
  | bash => "bash"
  | elvish => "elvish"
  | fish => "fish"
  | powershell => "powershell"
  | zsh => "zsh"

def shown : Shell → String
  | bash => "Bash"
  | elvish => "Elvish"
  | fish => "Fish"
  | powershell => "PowerShell"
  | zsh => "Zsh"

def all : List Shell := [bash, elvish, fish, powershell, zsh]

def ofName? (s : String) : Option Shell := all.find? (·.name == s)

end Shell

def programName : String := "srcpack"

def programVersion : String := "0.1.0"

def about : String := "Pack a contract source tree into a single JSON document."

def longAbout : String :=
  "srcpack walks a project directory, collects every .rs, .toml and Cargo.lock file \n" ++
  "(skipping .idea, .git, target and any --exclude directories) and prints one JSON \n" ++
  "document mapping relative paths to file contents, plus the manifest path."

def afterHelp : String :=
  "EXAMPLES:\n  srcpack > contract.json\n" ++
  "  srcpack --manifest contracts/vault/Cargo.toml --exclude vendor deployments\n" ++
  "  srcpack --root ~/work/vault -o build/vault.json"

def options : List Opt := [
  { id := "root", long := "root", action := .set, valueName := "PATH", hint := .path,
    help := "Directory to pack (default: $PROJECT_ROOT, then the current dir).",
    heading := some "Project Setup", group := some "project" },
  { id := "config", long := "config", action := .set, valueName := "CONFIG_FILE", hint := .path,
    help := "Path of a TOML config file (default: <root>/srcpack.toml if present).",
    heading := some "Project Setup", group := some "project", conflicts := ["no_config"] },
  { id := "no_config", long := "no-config", action := .setTrue,
    help := "Do not load any TOML config file.",
    heading := some "Project Setup", group := some "project", conflicts := ["config"] },
  { id := "manifest", long := "manifest", action := .set, valueName := "PATH",
    help := "Manifest path written to the `manifest-path` field [default: Cargo.toml].",
    heading := some "Collection", group := some "collection" },
  { id := "exclude", long := "exclude", action := .append, valueName := "NAME",
    help := "Directory names to skip at any depth, in addition to .idea, .git and target.",
    heading := some "Collection", group := some "collection" },
  { id := "skip_unreadable", long := "skip-unreadable", action := .setTrue,
    help := "Warn about and skip files that cannot be read as text instead of aborting.",
    heading := some "Collection", group := some "collection" },
  { id := "output", short := some 'o', long := "output", action := .set, valueName := "FILE",
    hint := .path, help := "Write the document to FILE instead of standard output.",
    heading := some "Output Control", group := some "output" },
  { id := "unicode", long := "unicode", action := .setTrue,
    help := "Emit non-ASCII characters as-is instead of \\uXXXX escapes.",
    heading := some "Output Control", group := some "output" },
  { id := "completion", long := "completion", action := .set, valueName := "SHELL",
    choices := Shell.all.map Shell.name, help := "Print a shell completion script and exit." },
  { id := "verbose", short := some 'v', long := "verbose", action := .count,
    help := "Increase message verbosity (-v, -vv, -vvv)." },
  { id := "quiet", short := some 'q', long := "quiet", action := .setTrue,
    help := "Silence informational messages and warnings." },
  { id := "help", short := some 'h', long := "help", action := .help,
    help := "Print help (see more with '--help')",
    longHelp := some "Print help (see a summary with '-h')" },
  { id := "version", short := some 'V', long := "version", action := .version,
    help := "Print version" }]

def byLong? (name : String) : Option Opt := options.find? (·.long == name)

def byShort? (c : Char) : Option Opt := options.find? (·.short == some c)

def byId? (id : String) : Option Opt := options.find? (·.id == id)

end SourceBundle.Cli
