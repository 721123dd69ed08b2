import SourceBundle.Path.Basic
/-! A file tree as a table from locations to entries. A location is the list of names from the
root down; the root is always a directory and is not in the table. An entry is a directory, a
file with its bytes, a symbolic link with the path it points to (kept as written), or a device
that reads as empty. -/
namespace SourceBundle

open Utf8 (Bytes)

inductive Node where
  | dir
  | file (data : Bytes)
  | link (target : OsPath)
  | device
  deriving DecidableEq, Repr

abbrev Location := List Bytes

structure Tree where
  entries : List (Location × Node)
  deriving Repr, Inhabited

namespace Tree

def get? (t : Tree) (loc : Location) : Option Node :=
  if loc = [] then some .dir else (t.entries.find? (·.1 == loc)).map (·.2)

def set (t : Tree) (loc : Location) (n : Node) : Tree :=
  ⟨(t.entries.filter (·.1 != loc)) ++ [(loc, n)]⟩

def nameLt : Bytes → Bytes → Bool
  | [], [] => false
  | [], _ :: _ => true
  | _ :: _, [] => false
  | a :: as, b :: bs => a < b || (a == b && nameLt as bs)

def nameLe (a b : Bytes) : Bool := !nameLt b a

def children (t : Tree) (loc : Location) : List (Bytes × Node) :=
  let direct := t.entries.filterMap fun (l, n) =>
    match l.getLast?, l.dropLast == loc with
    | some name, true => some (name, n)
    | _, _ => none
  direct.mergeSort fun a b => nameLe a.1 b.1

def pathOf (loc : Location) : OsPath :=
  ⟨OsPath.slash :: OsPath.joinSegments loc⟩

end Tree

end SourceBundle
