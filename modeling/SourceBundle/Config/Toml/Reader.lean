import SourceBundle.Config.Toml.Document
/-! Readers of TOML text, one byte at a time.

A reader starts at a cursor (the unread bytes and the offset of the first) and either reads a
value, moving the cursor on, or stops with a complaint. A soft stop lets an enclosing choice try
its next alternative from the same place; a hard stop ends the reading. A complaint keeps the
offset where reading stood when it stopped, the notes of the readers it passed through (from the
innermost out), and an underlying cause. Most readers that fail take nothing, so a complaint
points at the first byte that did not fit. -/
namespace SourceBundle.Toml

inductive Expectation where
  | char (c : Char)
  | text (s : String)
  | description (s : String)
  deriving DecidableEq, Repr

inductive Note where
  | label (what : String)
  | expected (e : Expectation)
  deriving DecidableEq, Repr

structure Stop where
  offset : Nat
  notes : List Note := []
  cause : Option String := none
  deriving DecidableEq, Repr

structure Cursor where
  rest : List UInt8
  offset : Nat
  deriving DecidableEq, Repr

inductive Reply (α : Type) where
  | ok (value : α) (next : Cursor)
  | soft (stop : Stop)
  | hard (stop : Stop)

def Reader (α : Type) : Type := Cursor → Reply α

namespace Reader

protected def pure (a : α) : Reader α := fun c => .ok a c

protected def bind (r : Reader α) (f : α → Reader β) : Reader β := fun c =>
  match r c with
  | .ok a c' => f a c'
  | .soft s => .soft s
  | .hard s => .hard s

instance : Monad Reader where
  pure := Reader.pure
  bind := Reader.bind

def fail : Reader α := fun c => .soft { offset := c.offset }

def offset : Reader Nat := fun c => .ok c.offset c

def peekByte : Reader (Option UInt8) := fun c => .ok c.rest.head? c

def anyByte : Reader UInt8 := fun c =>
  match c.rest with
  | b :: bs => .ok b ⟨bs, c.offset + 1⟩
  | [] => .soft { offset := c.offset }

def byteIf (p : UInt8 → Bool) : Reader UInt8 := fun c =>
  match c.rest with
  | b :: bs => if p b then .ok b ⟨bs, c.offset + 1⟩ else .soft { offset := c.offset }
  | [] => .soft { offset := c.offset }

def byte (b : UInt8) : Reader Unit := fun c =>
  match byteIf (· == b) c with
  | .ok _ c' => .ok () c'
  | .soft s => .soft s
  | .hard s => .hard s

def literal (bs : List UInt8) : Reader Unit := fun c =>
  if bs.isPrefixOf c.rest then .ok () ⟨c.rest.drop bs.length, c.offset + bs.length⟩
  else .soft { offset := c.offset }

def atEnd : Reader Unit := fun c =>
  if c.rest.isEmpty then .ok () c else .soft { offset := c.offset }

def runOf (p : UInt8 → Bool) (least most : Nat) : Reader (List UInt8) := fun c =>
  let bs := (c.rest.takeWhile p).take most
  if bs.length < least then .soft { offset := c.offset }
  else .ok bs ⟨c.rest.drop bs.length, c.offset + bs.length⟩

def runWhile (p : UInt8 → Bool) : Reader (List UInt8) := fun c =>
  let bs := c.rest.takeWhile p
  .ok bs ⟨c.rest.drop bs.length, c.offset + bs.length⟩

def cut (r : Reader α) : Reader α := fun c =>
  match r c with
  | .soft s => .hard s
  | x => x

def note (n : Note) (r : Reader α) : Reader α := fun c =>
  match r c with
  | .soft s => .soft { s with notes := s.notes ++ [n] }
  | .hard s => .hard { s with notes := s.notes ++ [n] }
  | x => x

def label (what : String) (r : Reader α) : Reader α := note (.label what) r

def expect (e : Expectation) (r : Reader α) : Reader α := note (.expected e) r

def opt (r : Reader α) : Reader (Option α) := fun c =>
  match r c with
  | .ok a c' => .ok (some a) c'
  | .soft _ => .ok none c
  | .hard s => .hard s

def alt : List (Reader α) → Reader α
  | [] => fail
  | [r] => r
  | r :: rs => fun c =>
    match r c with
    | .soft _ => alt rs c
    | x => x

def peek (r : Reader α) : Reader α := fun c =>
  match r c with
  | .ok a _ => .ok a c
  | .soft s => .soft { s with offset := c.offset }
  | .hard s => .hard { s with offset := c.offset }

def repeatFor (r : Reader α) : Nat → Reader (List α)
  | 0 => fun c => .ok [] c
  | fuel + 1 => fun c =>
    match r c with
    | .ok a c' =>
      if c'.rest.length < c.rest.length then
        match repeatFor r fuel c' with
        | .ok as c'' => .ok (a :: as) c''
        | .soft s => .soft s
        | .hard s => .hard s
      else .ok [] c
    | .soft _ => .ok [] c
    | .hard s => .hard s

-- each read that counts takes a byte, so there are at most as many reads as bytes left
def many (r : Reader α) : Reader (List α) := fun c => repeatFor r (c.rest.length + 1) c

def many1 (r : Reader α) : Reader (List α) := do
  let a ← r
  let as ← many r
  return a :: as

def sepBy1 (r : Reader α) (sep : Reader Unit) : Reader (List α) := do
  let a ← r
  let as ← many (do sep; r)
  return a :: as

def sepBy (r : Reader α) (sep : Reader Unit) : Reader (List α) := do
  match ← opt r with
  | none => return []
  | some a =>
    let as ← many (do sep; r)
    return a :: as

def spanned (r : Reader α) : Reader (α × Span) := fun c =>
  match r c with
  | .ok a c' => .ok (a, ⟨c.offset, c'.offset⟩) c'
  | .soft s => .soft s
  | .hard s => .hard s

def taken (r : Reader α) : Reader (List UInt8) := fun c =>
  match r c with
  | .ok _ c' => .ok (c.rest.take (c'.offset - c.offset)) c'
  | .soft s => .soft s
  | .hard s => .hard s

def tryMap (r : Reader α) (f : α → Except String β) : Reader β := fun c =>
  match r c with
  | .ok a c' =>
    match f a with
    | .ok b => .ok b c'
    | .error e => .soft { offset := c.offset, cause := some e }
  | .soft s => .soft s
  | .hard s => .hard s

def check (r : Reader α) (p : α → Bool) : Reader α := fun c =>
  match r c with
  | .ok a c' => if p a then .ok a c' else .soft { offset := c.offset }
  | .soft s => .soft s
  | .hard s => .hard s

def settle (r : Reader α) (f : α → Except (Option String) β) : Reader β := fun c =>
  match r c with
  | .ok a c' =>
    match f a with
    | .ok b => .ok b c'
    | .error e => .hard { offset := c.offset, cause := e }
  | .soft s => .soft s
  | .hard s => .hard s

end Reader

end SourceBundle.Toml
