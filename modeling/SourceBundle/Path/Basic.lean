import SourceBundle.Text.Utf8
/-! Paths as a Unix system holds them: bytes cut by `/`. Reading a path gives its components: a
leading `/` is the root, a leading `.` alone or before `/` is the current directory, `..` is the
parent, empty parts and other `.` parts are skipped. Joining, the parent and the last name follow
the same reading, and a path is shown as lossy UTF-8 text. -/
namespace SourceBundle

open Utf8 (Bytes)

structure OsPath where
  bytes : Bytes
  deriving DecidableEq, Repr, Inhabited

namespace OsPath

def slash : UInt8 := 47

def dot : UInt8 := 46

inductive Component where
  | root
  | current
  | parent
  | normal (name : Bytes)
  deriving DecidableEq, Repr

def ofString (s : String) : OsPath := ⟨Utf8.encode s⟩

def display (p : OsPath) : String := Utf8.lossy p.bytes

def isAbsolute (p : OsPath) : Bool := p.bytes.head? == some slash

def segments : Bytes → List Bytes
  | [] => [[]]
  | b :: rest =>
    if b = slash then [] :: segments rest
    else match segments rest with
      | [] => [[b]]
      | s :: ss => (b :: s) :: ss

def segmentComponent (seg : Bytes) : Option Component :=
  if seg = [] ∨ seg = [dot] then none
  else if seg = [dot, dot] then some .parent
  else some (.normal seg)

def startsAtCurrent : Bytes → Bool
  | [46] => true
  | 46 :: 47 :: _ => true
  | _ => false

def head (p : OsPath) : List Component :=
  if p.isAbsolute then [.root] else if startsAtCurrent p.bytes then [.current] else []

def components (p : OsPath) : List Component :=
  p.head ++ (segments p.bytes).filterMap segmentComponent

def Component.bytes : Component → Bytes
  | .root => [slash]
  | .current => [dot]
  | .parent => [dot, dot]
  | .normal n => n

def join (p q : OsPath) : OsPath :=
  if q.isAbsolute then q
  else if p.bytes = [] ∨ p.bytes.getLast? = some slash then ⟨p.bytes ++ q.bytes⟩
  else ⟨p.bytes ++ slash :: q.bytes⟩

def ofComponents (cs : List Component) : OsPath :=
  cs.foldl (fun acc c => acc.join ⟨c.bytes⟩) ⟨[]⟩

def fileName (p : OsPath) : Option Bytes :=
  match p.components.getLast? with
  | some (.normal n) => some n
  | _ => none

def joinSegments : List Bytes → Bytes
  | [] => []
  | [s] => s
  | s :: ss => s ++ slash :: joinSegments ss

def dropSkipped (segs : List Bytes) : List Bytes :=
  (segs.reverse.dropWhile fun s => (segmentComponent s).isNone).reverse

def parent (p : OsPath) : Option OsPath :=
  let front := p.bytes.take p.head.length
  let body := dropSkipped (segments (p.bytes.drop p.head.length))
  match body.getLast? with
  | some _ => some ⟨front ++ joinSegments (dropSkipped body.dropLast)⟩
  | none => if p.head = [.current] then some ⟨[]⟩ else none

end OsPath

end SourceBundle
