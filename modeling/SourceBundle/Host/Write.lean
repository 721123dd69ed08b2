import SourceBundle.Host.Resolve
/-! Changing a file tree: making a directory, making every missing directory of a path, writing
a file and making a link.

Making a directory needs its parent to exist and its name to be free (a link counts as taken, even
one that points nowhere). Making all directories of a path tries the path itself first; only if a
part of it is missing does it make the parent first (and so on up) and then try again, and a name
that is taken is fine when it is a directory after all; what it made before a failure stays. Writing a file follows links to the file
they name, replaces the bytes of an existing file, leaves a device as it is, cannot write a
directory, and creates a missing file in an existing directory (not when the path ends with
`/`). -/
namespace SourceBundle

open Utf8 (Bytes)

namespace Tree

def makeDir (t : Tree) (cwd : Location) (p : OsPath) : Except OsError Tree :=
  match t.locate cwd p false with
  | .ok (.entry _ _) => .error .alreadyExists
  | .ok (.missing dir name _) => .ok (t.set (dir ++ [name]) .dir)
  | .error e => .error e

def settle (cwd : Location) (p : OsPath) (e : OsError) : ExceptT OsError (StateM Tree) Unit := do
  if (← get).isDir cwd p then pure () else throw e

def makeDirAllWith (cwd : Location) : Nat → OsPath → ExceptT OsError (StateM Tree) Unit
  | 0, _ => throw (.other "failed to create whole tree")
  | fuel + 1, p => do
    if p.bytes = [] then return
    match (← get).makeDir cwd p with
    | .ok t => MonadState.set t
    | .error .notFound =>
      match p.parent with
      | none => throw (.other "failed to create whole tree")
      | some q =>
        makeDirAllWith cwd fuel q
        match (← get).makeDir cwd p with
        | .ok t => MonadState.set t
        | .error e => settle cwd p e
    | .error e => settle cwd p e

def makeDirAll (cwd : Location) (p : OsPath) : ExceptT OsError (StateM Tree) Unit :=
  -- each climb drops the last component, a byte at least, so the climb never runs out of fuel
  makeDirAllWith cwd (p.bytes.length + 1) p

def writeFile (t : Tree) (cwd : Location) (p : OsPath) (data : Bytes) : Except OsError Tree :=
  match t.locate cwd p true with
  | .ok (.entry _ .dir) => .error .isADirectory
  | .ok (.entry _ .device) => .ok t
  | .ok (.entry loc _) => .ok (t.set loc (.file data))
  | .ok (.missing dir name slash) =>
    if slash then .error .isADirectory else .ok (t.set (dir ++ [name]) (.file data))
  | .error e => .error e

def makeLink (t : Tree) (cwd : Location) (p : OsPath) (target : OsPath) : Except OsError Tree :=
  match t.locate cwd p false with
  | .ok (.entry _ _) => .error .alreadyExists
  | .ok (.missing dir name _) => .ok (t.set (dir ++ [name]) (.link target))
  | .error e => .error e

end Tree

end SourceBundle
