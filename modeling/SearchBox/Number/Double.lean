import SearchBox.Text.Blank

/- Binary floating point numbers of 64 bits, exact: reading rounds a decimal to the nearest one, ties to
   the even significand; writing takes the fewest digits that read back. -/
namespace SearchBox

inductive Double where
  /-- The number `± significand * 2 ^ exponent`. -/
  | finite (negative : Bool) (significand : Nat) (exponent : Int)
  | infinite (negative : Bool)
  | notANumber
  deriving DecidableEq, Repr

namespace Double

/-- Quotient to the nearest whole number, ties to the even one. -/
def roundDiv (num den : Nat) : Nat :=
  let q := num / den
  let twice := 2 * (num % den)
  if twice < den then q else if den < twice then q + 1 else q + q % 2

/-- Numerator and denominator of `n * base ^ e`. -/
def scaled (n base : Nat) (e : Int) : Nat × Nat :=
  if 0 ≤ e then (n * base.pow e.toNat, 1) else (n, base.pow (-e).toNat)

def digitCount (n : Nat) : Nat := (Text.ofNat n).length

def inUnits (num den : Nat) (e : Int) : Nat × Nat :=
  if 0 ≤ e then (num, den * Nat.pow 2 e.toNat) else (num * Nat.pow 2 (-e).toNat, den)

/-- Significand of `bits` binary digits at most and exponent of `least` at least, nearest to `num / den`;
    the exponent has no upper limit. -/
def nearestOf (bits : Nat) (least : Int) (num den : Nat) : Nat × Int :=
  let guess : Int := (num.log2 : Int) - (den.log2 : Int) - (bits - 1 : Nat)
  let (n, d) := inUnits num den guess
  let e := max (if n / d < Nat.pow 2 (bits - 1) then guess - 1 else guess) least
  let (n, d) := inUnits num den e
  let m := roundDiv n d
  if m = Nat.pow 2 bits then (Nat.pow 2 (bits - 1), e + 1) else (m, e)

def nearest (num den : Nat) : Nat × Int := nearestOf 53 (-1074) num den

def ofRatio (negative : Bool) (num den : Nat) : Double :=
  let (m, e) := nearest num den
  if 971 < e then .infinite negative
  else if m = 0 then .finite negative 0 0
  else .finite negative m e

def ofDecimal (negative : Bool) (digits : Nat) (exponent : Int) : Double :=
  let size := digitCount digits + exponent
  if digits = 0 ∨ size < -330 then .finite negative 0 0
  else if 310 < size then .infinite negative
  else
    let (num, den) := scaled digits 10 exponent
    ofRatio negative num den

/-- Whether `c * 10 ^ k` rounds to `m * 2 ^ e`. All is measured in quarters of the last place, since the
    neighbour below a power of two is half a place away. -/
def roundsTo (m : Nat) (e : Int) (c : Nat) (k : Int) : Bool :=
  let (num, den) := scaled c 10 k
  let (num, den) := inUnits num den (e - 2)
  let low := (if m = Nat.pow 2 52 ∧ -1074 < e then 4 * m - 1 else 4 * m - 2) * den
  let high := (4 * m + 2) * den
  if m % 2 = 0 then low ≤ num && num ≤ high else low < num && num < high

/-- The decimal of `count` digits nearest to `num / den` among those that round to `m * 2 ^ e`; the
    first digit has the place `10 ^ place`. -/
def withDigits? (m : Nat) (e : Int) (num den : Nat) (place : Int) (count : Nat) : Option (Nat × Int) :=
  let k := place - count + 1
  let (n, d) := scaled 1 10 k
  let below := num * d / (den * n)
  let rest := num * d % (den * n)
  let highIsNearer := den * n < 2 * rest ∨ (den * n = 2 * rest ∧ below % 2 = 1)
  match roundsTo m e below k, roundsTo m e (below + 1) k with
  | true, true => some (if highIsNearer then below + 1 else below, k)
  | true, false => some (below, k)
  | false, true => some (below + 1, k)
  | false, false => none

/-- Digits and exponent of the shortest decimal that reads back as `m * 2 ^ e`; seventeen digits always do. -/
def shortest (m : Nat) (e : Int) : Nat × Int :=
  let (num, den) := scaled m 2 e
  let guess : Int := (digitCount num : Int) - digitCount den
  let (n, d) := scaled 1 10 guess
  let place := if n * den ≤ num * d then guess else guess - 1
  ((List.range 17).findSome? fun i => withDigits? m e num den place (i + 1)).getD (0, 0)

/-- Decimal places from `10 ^ -4` up to below `10 ^ 16` are written positionally, with a point always;
    all others with an exponent of a sign and at least two digits. -/
def layout (digits : Text) (place : Int) : Text :=
  if -4 ≤ place ∧ place < 16 then
    if place < 0 then
      "0.".toList ++ List.replicate (-place - 1).toNat '0' ++ digits
    else
      let whole := place.toNat + 1
      let padded := digits ++ List.replicate (whole - digits.length) '0'
      let fraction := padded.drop whole
      padded.take whole ++ '.' :: (if fraction = [] then ['0'] else fraction)
  else
    let tail := digits.drop 1
    let exponent := Text.ofNat place.natAbs
    digits.take 1 ++ (if tail = [] then [] else '.' :: tail) ++
      ['e', if place < 0 then '-' else '+'] ++
      (if exponent.length < 2 then '0' :: exponent else exponent)

def dropTrailingZeros (digits : Text) : Text := (digits.reverse.dropWhile (· = '0')).reverse

def shown : Double → Text
  | .notANumber => "nan".toList
  | .infinite negative => if negative then "-inf".toList else "inf".toList
  | .finite negative m e =>
    let body :=
      if m = 0 then "0.0".toList
      else
        let (c, k) := shortest m e
        let digits := Text.ofNat c
        layout (dropTrailingZeros digits) (k + digits.length - 1)
    if negative then '-' :: body else body

end Double
end SearchBox
