/-! UTF-8 between bytes and text. Reading is strict (`decode?`: valid text or nothing) or lossy
(`lossy`: every maximal ill-formed part becomes one U+FFFD, the practice the Unicode standard
recommends); both rest on one step, `pieces`, which splits bytes into characters and ill-formed
parts. Writing is `encode`. -/
namespace SourceBundle.Utf8

abbrev Bytes := List UInt8

inductive Piece where
  | char (c : Char)
  | bad
  deriving DecidableEq, Repr

def isCont (b : UInt8) : Bool := 0x80 ≤ b && b ≤ 0xBF

def secondOk (b0 b1 : UInt8) : Bool :=
  if b0 = 0xE0 then 0xA0 ≤ b1 && b1 ≤ 0xBF
  else if b0 = 0xED then 0x80 ≤ b1 && b1 ≤ 0x9F
  else if b0 = 0xF0 then 0x90 ≤ b1 && b1 ≤ 0xBF
  else if b0 = 0xF4 then 0x80 ≤ b1 && b1 ≤ 0x8F
  else isCont b1

private def low6 (b : UInt8) : Nat := b.toNat % 64

def char2 (b0 b1 : UInt8) : Char := Char.ofNat ((b0.toNat % 32) * 64 + low6 b1)

def char3 (b0 b1 b2 : UInt8) : Char :=
  Char.ofNat ((b0.toNat % 16) * 4096 + low6 b1 * 64 + low6 b2)

def char4 (b0 b1 b2 b3 : UInt8) : Char :=
  Char.ofNat ((b0.toNat % 8) * 262144 + low6 b1 * 4096 + low6 b2 * 64 + low6 b3)

def front (b0 : UInt8) (rest : Bytes) : Piece × Nat :=
  if b0 < 0x80 then (.char (Char.ofNat b0.toNat), 1)
  else if 0xC2 ≤ b0 && b0 ≤ 0xDF then
    match rest with
    | b1 :: _ => if isCont b1 then (.char (char2 b0 b1), 2) else (.bad, 1)
    | [] => (.bad, 1)
  else if 0xE0 ≤ b0 && b0 ≤ 0xEF then
    match rest with
    | b1 :: t1 =>
      if secondOk b0 b1 then
        match t1 with
        | b2 :: _ => if isCont b2 then (.char (char3 b0 b1 b2), 3) else (.bad, 2)
        | [] => (.bad, 2)
      else (.bad, 1)
    | [] => (.bad, 1)
  else if 0xF0 ≤ b0 && b0 ≤ 0xF4 then
    match rest with
    | b1 :: t1 =>
      if secondOk b0 b1 then
        match t1 with
        | b2 :: t2 =>
          if isCont b2 then
            match t2 with
            | b3 :: _ => if isCont b3 then (.char (char4 b0 b1 b2 b3), 4) else (.bad, 3)
            | [] => (.bad, 3)
          else (.bad, 2)
        | [] => (.bad, 2)
      else (.bad, 1)
    | [] => (.bad, 1)
  else (.bad, 1)

theorem frontPos (b0 : UInt8) (rest : Bytes) : 0 < (front b0 rest).2 := by
  unfold front
  repeat' split
  all_goals simp

def pieces : Bytes → List Piece
  | [] => []
  | b0 :: rest => (front b0 rest).1 :: pieces ((b0 :: rest).drop (front b0 rest).2)
termination_by bs => bs.length
decreasing_by
  have := frontPos b0 rest
  simp only [List.length_drop, List.length_cons]
  omega

def Piece.allChars : List Piece → Option (List Char)
  | [] => some []
  | .char c :: rest => (allChars rest).map (c :: ·)
  | .bad :: _ => none

def decode? (bs : Bytes) : Option String := (Piece.allChars (pieces bs)).map String.ofList

def lossy (bs : Bytes) : String :=
  String.ofList ((pieces bs).map fun | .char c => c | .bad => '�')

def isValid (bs : Bytes) : Bool := (decode? bs).isSome

def encode (s : String) : Bytes := s.toList.flatMap String.utf8EncodeChar

end SourceBundle.Utf8
