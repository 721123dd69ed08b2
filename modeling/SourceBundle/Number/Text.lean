import SourceBundle.Number.Shortest
/-! Binary64 numbers as text, from their shortest decimal.

Two layouts are written. The *plain* layout writes the full positional decimal and no point for a
whole number (`1`, `0.0000001`, `1000000000000000000000`), and a value halfway between two shortest
decimals takes the upper one. The *data* layout takes the even one, and writes positional
text with a point when the decimal point falls within 16 places of the first digit
(`1e-5 ≤ |x| < 1e16`, and zero), always with a fractional part (`3.0`, `0.00001`), and otherwise
`d.ddde±X` with the exponent's sign always written (`1e+16`, `1.5e-7`). -/
namespace SourceBundle.Binary64

def digitChars (n : Nat) : List Char := (Nat.toDigits 10 n)

def zeros (n : Nat) : List Char := List.replicate n '0'

def pointOf (d : Decimal) : List Char × Int :=
  let ds := digitChars d.digits
  (ds, ds.length + d.exponent)

def positional (d : Decimal) (fraction : Bool) : List Char :=
  let (ds, point) := pointOf d
  if point ≤ 0 then ['0', '.'] ++ zeros (-point).toNat ++ ds
  else if ds.length ≤ point.toNat then
    ds ++ zeros (point.toNat - ds.length) ++ (if fraction then ['.', '0'] else [])
  else ds.take point.toNat ++ '.' :: ds.drop point.toNat

def scientific (d : Decimal) : List Char :=
  let (ds, point) := pointOf d
  let e := point - 1
  let mant := match ds with
    | [c] => [c]
    | c :: rest => c :: '.' :: rest
    | [] => ['0']
  mant ++ 'e' :: (if e < 0 then '-' :: digitChars e.natAbs else '+' :: digitChars e.natAbs)

def signed (x : Binary64) (body : List Char) : String :=
  String.ofList (if x.negative then '-' :: body else body)

def plainText (x : Binary64) : String :=
  if x.units = 0 then signed x ['0'] else signed x (positional (shortest .up x) false)

def dataText (x : Binary64) : String :=
  if x.units = 0 then signed x ['0', '.', '0']
  else
    let d := shortest .even x
    let point := (pointOf d).2
    if -5 < point ∧ point ≤ 16 then signed x (positional d true) else signed x (scientific d)

end SourceBundle.Binary64
