import SourceBundle.Log
import SourceBundle.Text.Escaped
/-! What a walk collects: the manifest path written into the bundle, the directory names that are
never entered (always `.git`, `.idea` and `target`, kept sorted and unique), the name endings and
whole names of files to keep, and what to do with a file that cannot be read.

A name added to the excluded set loses its trailing `/` and `\` characters first; a name that is
empty then is ignored with a warning. A file is kept when its name ends with `rs` or `toml` (a
plain ending, so `xrs` counts) or is exactly `Cargo.lock`. -/
namespace SourceBundle

inductive ReadPolicy where
  | abort
  | skip
  deriving DecidableEq, Repr

def ReadPolicy.name : ReadPolicy → String
  | .abort => "abort"
  | .skip => "skip"

def configTarget : String := "srcpack_core::config"

def insertName (x : String) : List String → List String × Bool
  | [] => ([x], true)
  | y :: ys =>
    if x < y then (x :: y :: ys, true)
    else if x = y then (y :: ys, false)
    else let (zs, fresh) := insertName x ys; (y :: zs, fresh)

structure CollectConfig where
  manifestPath : String := "Cargo.toml"
  excluded : List String := [".git", ".idea", "target"]
  extensions : List String := ["rs", "toml"]
  fileNames : List String := ["Cargo.lock"]
  policy : ReadPolicy := .abort
  deriving DecidableEq, Repr

namespace CollectConfig

def trimName (name : String) : String :=
  String.ofList (name.toList.reverse.dropWhile (fun c => c = '/' ∨ c = '\\')).reverse

def addExclude (c : CollectConfig) (name : String) : Logged CollectConfig := do
  let trimmed := trimName name
  if trimmed.isEmpty then
    say .warn configTarget "Ignoring empty exclude entry"
    return c
  let (names, fresh) := insertName trimmed c.excluded
  if fresh then say .trace configTarget s!"Added excluded directory name: {trimmed}"
  return { c with excluded := names }

def addExcludes (c : CollectConfig) : List String → Logged CollectConfig
  | [] => pure c
  | n :: ns => do addExcludes (← c.addExclude n) ns

def make (manifest : String) (extra : List String) : Logged CollectConfig :=
  ({ manifestPath := manifest } : CollectConfig).addExcludes extra

def isExcluded (c : CollectConfig) (name : String) : Bool := c.excluded.contains name

def keeps (c : CollectConfig) (name : String) : Bool :=
  c.extensions.any (fun e => e.toList.isSuffixOf name.toList) || c.fileNames.contains name

def describe (c : CollectConfig) : String :=
  let policy := match c.policy with | .abort => "Abort" | .skip => "Skip"
  "CollectConfig \x7b manifest_path: " ++ Escaped.quote c.manifestPath ++ ", excluded_dir_names: " ++
    Escaped.set c.excluded ++ ", matched_extensions: " ++ Escaped.list c.extensions ++
    ", matched_file_names: " ++ Escaped.list c.fileNames ++ ", read_error_policy: " ++ policy ++ " \x7d"

end CollectConfig

end SourceBundle
