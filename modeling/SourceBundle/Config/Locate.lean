import SourceBundle.Host.Basic
import SourceBundle.Failure
import SourceBundle.Log
import SourceBundle.Config.Collect
/-! Finding the project root and the configuration file.

A path given for either is first read as text, lossily (each ill-formed part of its bytes becomes
U+FFFD), and a leading `~` alone or before `/` then stands for the home directory (other `~`
forms stay as they are). The root is the path given on the command line, else `PROJECT_ROOT` when
it is UTF-8 text and not empty (other values count as unset), else the working directory; it is
made absolute with every link followed, and must be a directory. The configuration file is the one
given, which must be a regular file, else `srcpack.toml` in the root if that is a regular file,
else none; turning configuration off wins over both. -/
namespace SourceBundle

def expandTilde (home : Option String) (s : String) : String :=
  match s.toList, home with
  | '~' :: rest, some h => if rest = [] ∨ rest.head? = some '/' then h ++ String.ofList rest else s
  | _, _ => s

def configFileName : String := "srcpack.toml"

namespace Host

def rootAt (h : Host) (path : OsPath) : Except Failure OsPath :=
  match h.tree.canonicalize h.cwd path with
  | .error e => throw (.rootDir path e)
  | .ok resolved =>
    if h.tree.isDir h.cwd resolved then return resolved
    else throw (.rootDir resolved (.other "not a directory"))

def projectRoot? (h : Host) (given : Option String) : Except Failure OsPath :=
  let chosen := match given with
    | some s => some s
    | none => match h.projectRoot.bind Utf8.decode? with
      | some s => if s.isEmpty then none else some s
      | none => none
  let path := match chosen with
    | some s => OsPath.ofString (expandTilde h.home s)
    | none => h.cwdPath
  h.rootAt path

def projectRootFor? (h : Host) (given : Option OsPath) : Except Failure OsPath :=
  h.projectRoot? (given.map OsPath.display)

def configPath? (h : Host) (root : OsPath) (given : Option OsPath) (disabled : Bool) :
    ExceptT Failure Logged (Option OsPath) := do
  if disabled then
    say .debug configTarget "Config file loading disabled via CLI flag."
    return none
  match given with
  | some p =>
    let expanded := OsPath.ofString (expandTilde h.home p.display)
    if !h.tree.isFile h.cwd expanded then
      throw (.config s!"Specified config file not found at path: {expanded.display}")
    say .debug configTarget s!"Using specified config file path: {expanded.display}"
    return some expanded
  | none =>
    let path := root.join (OsPath.ofString configFileName)
    if h.tree.isFile h.cwd path then
      say .debug configTarget s!"Using default config file path: {path.display}"
      return some path
    else
      say .debug configTarget s!"No config file specified and default not found at: {path.display}"
      return none

end Host

end SourceBundle
