/-! Finite binary64 numbers, counted in units of the smallest subnormal, `2^-1074`.

Every finite binary64 magnitude is a whole number of such units: below `2^53` units any whole
number is one (the subnormals and the first binade), above it a binade starting at `2^(52+s)`
units holds the multiples of `2^s`. Rounding an exact positive fraction to binary64 takes the
nearest such magnitude, a tie going to the even significand, and fails past the largest finite
magnitude `(2^53 - 1) · 2^971`. Products and quotients of binary64 numbers are rounded the same
way from their exact values. -/
namespace SourceBundle

structure Binary64 where
  negative : Bool
  units : Nat
  deriving DecidableEq, Repr, Inhabited

namespace Binary64

def maxUnits : Nat := (Nat.pow 2 53 - 1) * Nat.pow 2 2045

def roundHalfEven (a b : Nat) : Nat :=
  let q := a / b
  let r := a % b
  if 2 * r < b then q else if b < 2 * r then q + 1 else q + q % 2

def gapAt (a b : Nat) : Nat :=
  if a < b * Nat.pow 2 53 then 1 else Nat.pow 2 (Nat.log2 (a / b) - 52)

def roundUnits (a b : Nat) : Option Nat :=
  let g := gapAt a b
  let n := roundHalfEven a (b * g) * g
  if n ≤ maxUnits then some n else none

def ofFraction (negative : Bool) (a b : Nat) : Option Binary64 :=
  (roundUnits (a * Nat.pow 2 1074) b).map fun u => ⟨negative, u⟩

def ofNat (n : Nat) : Option Binary64 := ofFraction false n 1

def mul (x y : Binary64) : Option Binary64 :=
  ofFraction (x.negative != y.negative) (x.units * y.units) (Nat.pow 2 2148)

def div (x y : Binary64) : Option Binary64 :=
  ofFraction (x.negative != y.negative) x.units y.units

def addSameSign (x y : Binary64) : Option Binary64 :=
  (roundUnits (x.units + y.units) 1).map fun u => ⟨x.negative, u⟩

def neg (x : Binary64) : Binary64 := { x with negative := !x.negative }

def isZero (x : Binary64) : Bool := x.units == 0

def evenSignificand (x : Binary64) : Bool := (x.units / gapAt x.units 1) % 2 == 0

end Binary64

end SourceBundle
