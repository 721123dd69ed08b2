import SourceBundle.Host.Tree
import SourceBundle.Host.Error
/-! Finding what a path names in a file tree, the way a Unix system walks a path.

A relative path starts at the working directory and an absolute one at the root. Empty parts and
`.` stay where they are, `..` goes up (the root is its own parent), and a name goes into the
entry of that name, which must exist. Only a directory can be passed through: a file or device
with anything after it, even a bare `/`, is `notADirectory`. A link met on the way is replaced by
its target, read from the link's directory (or from the root when absolute); the last name is
followed too unless the caller asks for the entry itself. Following more than 40 links is
`tooManyLinks`. A name longer than 255 bytes is `nameTooLong` when the walk reaches it.

Before any walk, a path holding a NUL byte is refused (it cannot be passed to the system), the
empty path names nothing, and a path of 4096 bytes or more is `nameTooLong`.

Canonicalizing resolves a path one name at a time and hands the system, for each name, the
absolute path of the location reached so far with that name added. So there the whole path may
be of any length, but each of those absolute paths must stay under 4096 bytes. -/
namespace SourceBundle

open Utf8 (Bytes)

inductive Found where
  | entry (loc : Location) (node : Node)
  | missing (dir : Location) (name : Bytes) (slash : Bool)
  deriving DecidableEq, Repr

def linkLimit : Nat := 40

def nameLimit : Nat := 255

def pathLimit : Nat := 4096

def nulInPath : OsError := .other "file name contained an unexpected NUL byte"

namespace Tree

def steps (p : OsPath) : List Bytes := OsPath.segments p.bytes

def startOf (cwd : Location) (p : OsPath) : Location := if p.isAbsolute then [] else cwd

def absoluteLength (loc : Location) : Nat := loc.foldl (fun n name => n + 1 + name.length) 0

def walk (t : Tree) (follow byName : Bool) :
    Nat → Location → List Bytes → Except OsError Found
  | _, loc, [] => .ok (.entry loc .dir)
  | links, loc, s :: rest =>
    if s = [] ∨ s = [OsPath.dot] then walk t follow byName links loc rest
    else if s = [OsPath.dot, OsPath.dot] then walk t follow byName links loc.dropLast rest
    else if nameLimit < s.length then .error .nameTooLong
    else if byName ∧ pathLimit ≤ absoluteLength loc + 1 + s.length then .error .nameTooLong
    else
      let child := loc ++ [s]
      match t.get? child with
      | none =>
        if rest.all (· == []) then .ok (.missing loc s (!rest.isEmpty)) else .error .notFound
      | some .dir => walk t follow byName links child rest
      | some (.link target) =>
        if rest.isEmpty ∧ !follow then .ok (.entry child (.link target))
        else match links with
          | 0 => .error .tooManyLinks
          | links + 1 =>
            let start := if target.isAbsolute then [] else loc
            walk t follow byName links start (steps target ++ rest)
      | some n => if rest.isEmpty then .ok (.entry child n) else .error .notADirectory
termination_by links _ rest => (links, rest.length)

def locate (t : Tree) (cwd : Location) (p : OsPath) (follow : Bool) : Except OsError Found :=
  if p.bytes.contains 0 then .error nulInPath
  else if p.bytes = [] then .error .notFound
  else if pathLimit ≤ p.bytes.length then .error .nameTooLong
  else t.walk follow false linkLimit (startOf cwd p) (steps p)

def lookup (t : Tree) (cwd : Location) (p : OsPath) (follow : Bool) :
    Except OsError (Location × Node) :=
  match t.locate cwd p follow with
  | .ok (.entry loc n) => .ok (loc, n)
  | .ok (.missing _ _ _) => .error .notFound
  | .error e => .error e

def stat (t : Tree) (cwd : Location) (p : OsPath) : Except OsError Node :=
  (t.lookup cwd p true).map (·.2)

def lstat (t : Tree) (cwd : Location) (p : OsPath) : Except OsError Node :=
  (t.lookup cwd p false).map (·.2)

def isDir (t : Tree) (cwd : Location) (p : OsPath) : Bool :=
  match t.stat cwd p with
  | .ok .dir => true
  | _ => false

def isFile (t : Tree) (cwd : Location) (p : OsPath) : Bool :=
  match t.stat cwd p with
  | .ok (.file _) => true
  | _ => false

def read (t : Tree) (cwd : Location) (p : OsPath) : Except OsError Bytes :=
  match t.stat cwd p with
  | .ok (.file data) => .ok data
  | .ok .dir => .error .isADirectory
  | .ok _ => .ok []
  | .error e => .error e

def canonicalize (t : Tree) (cwd : Location) (p : OsPath) : Except OsError OsPath :=
  if p.bytes.contains 0 then .error nulInPath
  else if p.bytes = [] then .error .notFound
  else match t.walk true true linkLimit (startOf cwd p) (steps p) with
    | .ok (.entry loc _) => .ok (pathOf loc)
    | .ok (.missing _ _ _) => .error .notFound
    | .error e => .error e

end Tree

end SourceBundle
