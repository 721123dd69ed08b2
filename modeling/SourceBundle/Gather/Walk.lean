import SourceBundle.Host.Basic
/-! The order in which a walk meets the entries below a root: the root first, then depth first,
the entries of a directory in byte order of their names. Each entry is typed as listed, without
following links, so only real directories are entered; a directory whose name the caller refuses
is met but not entered (it is pruned). The root's own entry is typed the same way, but the walk
goes into whatever directory the root path leads to, a link included.

A directory is listed through the path the walk reached it by, so one whose path the system
refuses (too long, say) is met and then reported as a directory that could not be listed. -/
namespace SourceBundle

open Utf8 (Bytes)

structure WalkEntry where
  path : OsPath
  depth : Nat
  node : Node
  name : Bytes
  deriving DecidableEq, Repr

inductive WalkStep where
  | visit (e : WalkEntry)
  | prune (e : WalkEntry)
  | fail (path : OsPath) (e : OsError)
  deriving DecidableEq, Repr

def Tree.listError? (t : Tree) (cwd : Location) (p : OsPath) : Option OsError :=
  match t.lookup cwd p true with
  | .error e => some e
  | .ok _ => none

def Tree.walkBelow (t : Tree) (cwd : Location) (refuse : Bytes → Bool) :
    Nat → Location → OsPath → Nat → List WalkStep
  | 0, _, _, _ => []
  | fuel + 1, loc, path, depth =>
    (t.children loc).flatMap fun (name, node) =>
      let e : WalkEntry := ⟨path.join ⟨name⟩, depth, node, name⟩
      match node with
      | .dir =>
        if refuse name then [.prune e]
        else .visit e :: match t.listError? cwd e.path with
          | some err => [.fail e.path err]
          | none => t.walkBelow cwd refuse fuel (loc ++ [name]) e.path (depth + 1)
      | _ => [.visit e]

def Tree.walkFrom (t : Tree) (cwd : Location) (refuse : Bytes → Bool) (root : OsPath)
    (rootNode : Node) (rootLoc : Option Location) : List WalkStep :=
  let rootEntry : WalkEntry := ⟨root, 0, rootNode, (root.fileName).getD root.bytes⟩
  .visit rootEntry :: match rootLoc with
    -- a tree with `n` entries nests at most `n` deep, so the walk never runs out of fuel
    | some loc => t.walkBelow cwd refuse (t.entries.length + 1) loc root 1
    | none => []

end SourceBundle
