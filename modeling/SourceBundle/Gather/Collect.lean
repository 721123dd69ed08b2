import SourceBundle.Gather.Walk
import SourceBundle.Config.Collect
import SourceBundle.Bundle.Document
import SourceBundle.Bundle.Size
import SourceBundle.Failure
import SourceBundle.Path.Relative
/-! Collecting the files below a root into a bundle.

The root must lead to a directory. The walk refuses directories (below the root) whose name is
UTF-8 and excluded. Of the entries it yields, regular files and links that do not lead to a
directory are candidates (a link to a directory is noted and passed over; links that lead nowhere
stay candidates, so that reading them reports why). A candidate is kept when its name, read as
lossy UTF-8, is kept by the rules. A kept file is read: an empty one is skipped, one that is not
UTF-8 fails with `decode`, one that cannot be read with `fileRead`; otherwise its text goes into
the bundle under its key, the path as seen from the root. Under the `skip` policy a per-file
failure is logged, counted and passed over; otherwise it ends the run. -/
namespace SourceBundle

open Utf8 (Bytes)

def gatherTarget : String := "srcpack_core::gather"

structure FileText where
  path : OsPath
  key : String
  content : String
  deriving DecidableEq, Repr

def readText (h : Host) (path root : OsPath) : Except Failure (Option FileText) :=
  match h.tree.read h.cwd path with
  | .error e => .error (.fileRead path e)
  | .ok [] => .ok none
  | .ok bytes =>
    match Utf8.decode? bytes with
    | none => .error (.decode path)
    | some content => .ok (some ⟨path, path.keyFrom root, content⟩)

abbrev Collecting := ExceptT Failure Logged

structure Gathered where
  contracts : Contracts := {}
  skipped : Nat := 0

def passOver (c : CollectConfig) (g : Gathered) (f : Failure) : Collecting Gathered := do
  if c.policy = .skip ∧ f.perFile then
    say .warn gatherTarget s!"Skipping unreadable entry: {f.message}"
    return { g with skipped := g.skipped + 1 }
  else throw f

def candidate (h : Host) (e : WalkEntry) : Logged Bool := do
  match e.node with
  | .file _ => return true
  | .link _ =>
    if h.tree.isDir h.cwd e.path then
      say .trace gatherTarget s!"Not following directory symlink: {e.path.display}"
      return false
    else return true
  | _ => return false

def gatherStep (h : Host) (c : CollectConfig) (root : OsPath) (g : Gathered) :
    WalkStep → Collecting Gathered
  | .prune e => do
    say .trace gatherTarget s!"Pruning excluded directory: {e.path.display}"
    return g
  | .fail p e => passOver c g (.walk p e)
  | .visit e => do
    if !(← (candidate h e : Logged Bool)) then return g
    if !c.keeps (Utf8.lossy e.name) then
      say .trace gatherTarget s!"Excluding file: {e.path.display}"
      return g
    match readText h e.path root with
    | .ok (some f) =>
      say .trace gatherTarget s!"Including file: {f.key}"
      return { g with contracts := g.contracts.insert f.key f.content }
    | .ok none =>
      say .debug gatherTarget s!"Skipping empty file: {e.path.display}"
      return g
    | .error f => passOver c g f

def gatherSteps (h : Host) (c : CollectConfig) (root : OsPath) :
    Gathered → List WalkStep → Collecting Gathered
  | g, [] => pure g
  | g, s :: ss => do gatherSteps h c root (← gatherStep h c root g s) ss

def refuses (c : CollectConfig) (name : Bytes) : Bool :=
  match Utf8.decode? name with
  | some s => c.isExcluded s
  | none => false

def rootSteps (h : Host) (c : CollectConfig) (root : OsPath) : Except OsError (List WalkStep) := do
  let (_, node) ← h.tree.lookup h.cwd root false
  let dirLoc := match h.tree.lookup h.cwd root true with
    | .ok (loc, .dir) => some loc
    | _ => none
  return h.tree.walkFrom h.cwd (refuses c) root node dirLoc

def gather (h : Host) (root : OsPath) (c : CollectConfig) : Collecting Bundle := do
  match h.tree.stat h.cwd root with
  | .error e => throw (.rootDir root e)
  | .ok .dir => pure ()
  | .ok _ => throw (.rootDir root (.other "not a directory"))
  say .info gatherTarget s!"Walking project directory: {root.display}"
  say .debug gatherTarget (s!"Excluded directories: {Escaped.set c.excluded}, extensions: " ++
    s!"{Escaped.list c.extensions}, file names: {Escaped.list c.fileNames}")
  let steps ← match rootSteps h c root with
    | .ok s => pure s
    | .error e => throw (.rootDir root e)
  let g ← gatherSteps h c root {} steps
  let b : Bundle := ⟨g.contracts, c.manifestPath⟩
  say .info gatherTarget
    s!"Collected {b.fileCount} files ({byteSizeText b.totalBytes}) from {root.display}"
  if g.skipped > 0 then say .warn gatherTarget s!"Skipped {g.skipped} unreadable entries"
  return b

end SourceBundle
