import SourceBundle.Host.Write
/-! The machine a run sees: a file tree, a working directory, and the two environment variables
the program reads, `HOME` and `PROJECT_ROOT`. A fresh machine has the device `/dev/null`, a
directory `/tmp`, and whatever directories are planted for a run. -/
namespace SourceBundle

open Utf8 (Bytes)

structure Host where
  tree : Tree
  cwd : Location
  home : Option String := none
  projectRoot : Option Bytes := none
  deriving Repr

inductive Planting where
  | dir (path : OsPath)
  | file (path : OsPath) (data : Bytes)
  | link (path : OsPath) (target : OsPath)
  deriving Repr

namespace Host

def baseTree (loc : Location) : Tree :=
  let dirs := (List.range loc.length).map fun i => (loc.take (i + 1), Node.dir)
  ⟨[(["dev".toUTF8.toList], .dir), (["dev".toUTF8.toList, "null".toUTF8.toList], .device),
    (["tmp".toUTF8.toList], .dir)] ++ dirs.filter (fun e => e.1 != ["tmp".toUTF8.toList])⟩

def fresh (loc : Location) : Host := ⟨baseTree loc, loc, none, none⟩

def cwdPath (h : Host) : OsPath := Tree.pathOf h.cwd

def enter (h : Host) (p : OsPath) : Except OsError Host :=
  match h.tree.lookup h.cwd p true with
  | .ok (loc, .dir) => .ok { h with cwd := loc }
  | .ok _ => .error .notADirectory
  | .error e => .error e

def plant (h : Host) (p : Planting) : Host :=
  let t := h.tree
  let prepared (path : OsPath) : Tree :=
    match path.parent with
    | some q => ((Tree.makeDirAll h.cwd q).run.run t).2
    | none => t
  let t' := match p with
    | .dir path => ((Tree.makeDirAll h.cwd path).run.run t).2
    | .file path data => let t0 := prepared path; (t0.writeFile h.cwd path data).toOption.getD t0
    | .link path target => let t0 := prepared path; (t0.makeLink h.cwd path target).toOption.getD t0
  { h with tree := t' }

def plantAll (h : Host) (ps : List Planting) : Host := ps.foldl plant h

end Host

end SourceBundle
