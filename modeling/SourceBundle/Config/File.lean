import SourceBundle.Config.Collect
/-! The settings a configuration file may give, each optional: the manifest path, more excluded
directory names, the read policy and whether JSON text escapes non-ASCII characters. Rules made
from a file start from the defaults, take the manifest path and policy it gives, and add its
excluded names. -/
namespace SourceBundle

structure FileConfig where
  manifest : Option String := none
  exclude : List String := []
  onReadError : Option ReadPolicy := none
  escapeUnicode : Option Bool := none
  deriving DecidableEq, Repr

def CollectConfig.ofFile (f : FileConfig) : Logged CollectConfig := do
  let c : CollectConfig := {}
  let c := match f.manifest with
    | some m => { c with manifestPath := m }
    | none => c
  let c ← c.addExcludes f.exclude
  return match f.onReadError with
    | some p => { c with policy := p }
    | none => c

end SourceBundle
