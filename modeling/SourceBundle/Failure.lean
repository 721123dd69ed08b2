import SourceBundle.Host.Error
import SourceBundle.Path.Basic
/-! Why a run fails, and how each failure reads. Failures tied to one entry below the root (a file
cannot be read or is not UTF-8 text, or the walk could not list a directory) are per-file
failures, the only ones a lenient read policy may pass over. -/
namespace SourceBundle

inductive Failure where
  | config (text : String)
  | configSyntax (text : String)
  | io (e : OsError)
  | rootDir (path : OsPath) (e : OsError)
  | fileRead (path : OsPath) (e : OsError)
  | decode (path : OsPath)
  | fileWrite (path : OsPath) (e : OsError)
  | walk (path : OsPath) (e : OsError)
  deriving DecidableEq, Repr

namespace Failure

def message : Failure → String
  | config t => s!"Configuration Error: {t}"
  | configSyntax t => s!"TOML Parsing Error: {t}"
  | io e => s!"Filesystem Error: {e.message}"
  | rootDir p e => s!"Root Directory Error: Path '{p.display}', Error: {e.message}"
  | fileRead p e => s!"File Read Error: Path '{p.display}', Error: {e.message}"
  | decode p => s!"File Decode Error: Path '{p.display}' is not valid UTF-8 text"
  | fileWrite p e => s!"File Write Error: Path '{p.display}', Error: {e.message}"
  | walk p e => s!"WalkDir Error: IO error for operation on {p.display}: {e.message}"

def perFile : Failure → Bool
  | fileRead _ _ | decode _ | walk _ _ => true
  | _ => false

def cause? : Failure → Option OsError
  | rootDir _ e | fileRead _ e | fileWrite _ e | io e => some e
  | _ => none

end Failure

end SourceBundle
