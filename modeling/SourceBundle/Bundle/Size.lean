import SourceBundle.Number.Text
/-! A count of bytes as text in binary units: below 1024 it is `n B`; otherwise the largest of
KiB, MiB, GiB, … (powers of 1024) not above the count, with the quotient written as the shortest
decimal that reads back as the binary64 quotient, without a point when it is whole. -/
namespace SourceBundle

def binaryUnits : List String := ["KiB", "MiB", "GiB", "TiB", "PiB", "EiB", "ZiB", "YiB"]

def binaryExponent (n : Nat) : Nat := min (Nat.log2 n / 10) binaryUnits.length

def byteSizeText (n : Nat) : String :=
  if n < 1024 then s!"{n} B"
  else
    let k := binaryExponent n
    let value := (Binary64.ofFraction false ((Binary64.ofNat n).getD default).units
      (Nat.pow 2 (10 * k) * Nat.pow 2 1074)).getD default
    let unit := binaryUnits.getD (k - 1) ""
    s!"{value.plainText} {unit}"

end SourceBundle
