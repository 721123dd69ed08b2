import SourceBundle.Number.Binary64
/-! The shortest decimal that reads back as a binary64 number.

The decimals that read back as a positive magnitude `u` (in units of `2^-1074`) are those
strictly between the midpoints to its two neighbours, and the midpoints themselves when its
significand is even. Counted in half-units (`2^-1075`) the midpoints are `2u - below` and
`2u + above`, where `above` is the gap to the next magnitude and `below` the gap to the previous
one (half the gap above at the bottom of a binade). The shortest decimal is `d · 10^n` for the
largest `n` whose grid meets that interval, and of the grid points inside the one nearest to the
value; a tie between two goes up or to the even one, as the caller says. -/
namespace SourceBundle.Binary64

structure Decimal where
  digits : Nat
  exponent : Int
  deriving DecidableEq, Repr

def gaps (u : Nat) : Nat × Nat :=
  let g := gapAt u 1
  if Nat.pow 2 53 ≤ u ∧ u = Nat.pow 2 (Nat.log2 u) then (g, g / 2) else (g, g)

structure Interval where
  low : Nat
  high : Nat
  closed : Bool

def interval (x : Binary64) : Interval :=
  let (above, below) := gaps x.units
  ⟨2 * x.units - below, 2 * x.units + above, x.evenSignificand⟩

def gridBounds (i : Interval) (n : Int) : Nat × Nat :=
  let p := Nat.pow 10 n.toNat * Nat.pow 2 1075
  let q := Nat.pow 10 (-n).toNat
  let lo := i.low * q
  let hi := i.high * q
  let least := if lo % p = 0 then (if i.closed then lo / p else lo / p + 1) else lo / p + 1
  let greatest := if hi % p = 0 ∧ !i.closed then hi / p - 1 else hi / p
  (least, greatest)

inductive Tie where
  | up
  | even
  deriving DecidableEq, Repr

def roundHalf (tie : Tie) (a b : Nat) : Nat :=
  match tie with
  | .even => roundHalfEven a b
  | .up => if 2 * (a % b) < b then a / b else a / b + 1

def nearestOnGrid (tie : Tie) (u : Nat) (n : Int) (lo hi : Nat) : Nat :=
  let p := Nat.pow 10 n.toNat * Nat.pow 2 1075
  let q := Nat.pow 10 (-n).toNat
  let d := roundHalf tie (2 * u * q) p
  if d < lo then lo else if hi < d then hi else d

def shortestFrom (tie : Tie) (x : Binary64) (i : Interval) : Nat → Int → Decimal
  | 0, n => ⟨0, n⟩
  | fuel + 1, n =>
    let (lo, hi) := gridBounds i n
    if lo ≤ hi then ⟨nearestOnGrid tie x.units n lo hi, n⟩ else shortestFrom tie x i fuel (n - 1)

def shortest (tie : Tie) (x : Binary64) : Decimal :=
  -- magnitudes lie between `10^-324` and `10^309`, so the grids from `10^309` down to `10^-330` suffice
  if x.units = 0 then ⟨0, 0⟩ else shortestFrom tie x (interval x) 640 309

end SourceBundle.Binary64
