import SourceBundle.Cli.Run
import SourceBundle.Config.Locate
import Std.Data.HashMap
import Std.Data.HashSet
/-! The command line on a real machine. The library runs on a model of the machine, so this layer
copies into a tree what a run can reach, runs it, and carries its effects back.

The copy holds the directories above the working directory and its whole subtree, and, for
every word of the command line and for `PROJECT_ROOT`, the path that the word (or the part after
its first `=`, or a short option's attached value) may name: each directory on the way to it,
and the whole subtree below it. A symbolic link is copied as the canonical path it leads to; one
that leads nowhere points to a path that does not exist. After the run, the directories and
files it made or changed are written to the disk, and its streams and exit code are passed on. -/
namespace SourceBundle.Cli

structure Copy where
  entries : Std.HashMap Location Node := {}
  walked : Std.HashSet Location := {}

def locationOf (canonical : String) : Location :=
  ((canonical.splitOn "/").filter (· != "")).map Utf8.encode

def pathText (loc : Location) : String :=
  "/" ++ "/".intercalate (loc.map Utf8.lossy)

def Copy.add (c : Copy) (loc : Location) (n : Node) : Copy :=
  { c with entries := c.entries.insertIfNew loc n }

def Copy.addDirs (c : Copy) (loc : Location) : Copy :=
  (List.range loc.length).foldl (fun c i => c.add (loc.take (i + 1)) .dir) c

partial def nowhere (n : Nat := 0) : IO String := do
  let candidate := "/nonexistent" ++ (if n == 0 then "" else toString n)
  match ← (IO.FS.realPath candidate).toBaseIO with
  | .ok _ => nowhere (n + 1)
  | .error _ => return candidate

mutual

partial def copyEntry (copy : IO.Ref Copy) (parent : Location) (name : String)
    (path : String) (deep : Bool) : IO Unit := do
  let loc := parent ++ [Utf8.encode name]
  if (← copy.get).walked.contains loc then return
  let here := (← IO.currentDir) / path
  let .ok info ← here.symlinkMetadata.toBaseIO | return
  match info.type with
  | .dir =>
    copy.modify (·.add loc .dir)
    if deep then
      copy.modify fun c => { c with walked := c.walked.insert loc }
      let .ok items ← here.readDir.toBaseIO | return
      for item in items do
        copyEntry copy loc item.fileName item.path.toString true
  | .file =>
    copy.modify fun c => { c with walked := c.walked.insert loc }
    let .ok data ← (IO.FS.readBinFile here).toBaseIO | return
    copy.modify (·.add loc (.file data.toList))
  | .symlink =>
    copy.modify fun c => { c with walked := c.walked.insert loc }
    match ← (IO.FS.realPath here).toBaseIO with
    | .ok target =>
      copy.modify (·.add loc (.link (OsPath.ofString target.toString)))
      copyCanonical copy target.toString false
    | .error _ =>
      copy.modify (·.add loc (.link (OsPath.ofString (← nowhere))))
  | .other => copy.modify (·.add loc .device)

partial def copyCanonical (copy : IO.Ref Copy) (canonical : String)
    (deep : Bool) : IO Unit := do
  let loc := locationOf canonical
  match loc.getLast? with
  | none => return
  | some name =>
    copy.modify (·.addDirs loc.dropLast)
    copyEntry copy loc.dropLast (Utf8.lossy name) canonical deep

end

def copyPath (copy : IO.Ref Copy) (path : String) : IO Unit := do
  let parts := path.splitOn "/"
  for (last, i) in parts.zipIdx do
    if last == "" || last == "." || last == ".." then continue
    let above := "/".intercalate (parts.take i)
    let above := if above == "" then (if path.startsWith "/" then "/" else ".") else above
    let .ok parent ← (IO.FS.realPath ((← IO.currentDir) / above)).toBaseIO | return
    let parentLoc := locationOf parent.toString
    copy.modify (·.addDirs parentLoc)
    copyEntry copy parentLoc last ("/".intercalate (parts.take (i + 1)))
      (i + 1 == parts.length)

def pathsIn (home : Option String) (word : String) : List String :=
  let attached := if word.startsWith "-" && !word.startsWith "--" then [(word.drop 2).toString]
    else []
  let valued := match word.splitOn "=" with
    | _ :: rest@(_ :: _) => ["=".intercalate rest]
    | _ => []
  let texts := (word :: attached ++ valued).filter (· != "")
  texts ++ texts.map (expandTilde home)

def writeBack (before after : Tree) : IO Unit := do
  let changed := after.entries.filter fun (loc, n) => before.get? loc != some n
  let changed := changed.mergeSort fun a b => a.1.length ≤ b.1.length
  for (loc, n) in changed do
    match n with
    | .dir => IO.FS.createDirAll (pathText loc)
    | .file data => IO.FS.writeBinFile (pathText loc) (ByteArray.mk data.toArray)
    | _ => pure ()

end SourceBundle.Cli

open SourceBundle SourceBundle.Cli in
def main (words : List String) : IO UInt32 := do
  let cwd := (← IO.currentDir).toString
  let home ← IO.getEnv "HOME"
  let projectRoot ← IO.getEnv "PROJECT_ROOT"
  let copy ← IO.mkRef ({} : Copy)
  let cwdLoc := locationOf cwd
  copyCanonical copy cwd true
  for word in words ++ projectRoot.toList do
    for path in pathsIn home word do
      copyPath copy path
  for (loc, n) in (Host.baseTree cwdLoc).entries do
    copy.modify (·.add loc n)
  let tree : Tree := ⟨(← copy.get).entries.toList⟩
  let outcome := run ⟨tree, cwdLoc, home, projectRoot.map Utf8.encode⟩ words
  writeBack tree outcome.host.tree
  IO.print outcome.stdout
  IO.eprint outcome.stderr
  return outcome.code.toUInt32
