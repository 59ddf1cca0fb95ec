import SearchBox.Number.Double
import SearchBox.Text.Digit

/- Numbers of a store: whole ones of 64 bits and binary fractions. A text counts as a number if nothing
   but spaces stands around a decimal numeral. Of a numeral only the first digits are taken, as many as a
   whole number of 64 bits holds, and powers of ten have 64 binary digits; so what is read is near to the
   numeral, and not always the nearest. -/
namespace SearchBox

inductive Quantity where
  | whole (n : Int)
  | real (x : Double)
  deriving DecidableEq, Repr

namespace Quantity

def isSpace (c : Char) : Bool := c = ' ' || (9 ≤ c.toNat && c.toNat ≤ 13)

def unpad (t : Text) : Text := ((t.dropWhile isSpace).reverse.dropWhile isSpace).reverse

def isFigure (c : Char) : Bool := 48 ≤ c.toNat && c.toNat ≤ 57

def figure (c : Char) : Nat := c.toNat - 48

def value (figures : Text) : Nat := digitsValue (figures.map figure)

def sign : Text → Bool × Text
  | '-' :: t => (true, t)
  | '+' :: t => (false, t)
  | t => (false, t)

/-- From ten thousand on, an exponent is so large that its further figures do not count. -/
def exponentValue (figures : Text) : Nat :=
  figures.foldl (fun e c => if e < 10000 then e * 10 + figure c else 10000) 0

def exponent? : Text → Option Int
  | [] => some 0
  | c :: t =>
    if c = 'e' ∨ c = 'E' then
      let (negative, figures) := sign t
      if figures ≠ [] ∧ figures.all isFigure then
        some (if negative then -(exponentValue figures : Int) else exponentValue figures)
      else none
    else none

/-- A number that has reached this takes no further digit. -/
def fullNumber : Nat := 922337203685477579

def takeWhole (n : Nat) : Text → Nat × Nat
  | [] => (n, 0)
  | c :: rest =>
    let n := n * 10 + figure c
    if fullNumber ≤ n then (n, rest.length) else takeWhole n rest

def takeFraction (n places : Nat) : Text → Nat × Nat
  | [] => (n, places)
  | c :: rest => if n < fullNumber then takeFraction (n * 10 + figure c) (places + 1) rest else (n, places)

/-- A number `significand * 2 ^ exponent` whose significand has 64 binary digits at most. -/
structure Wide where
  significand : Nat
  exponent : Int

namespace Wide

def ofRatio (num den : Nat) : Wide :=
  let (m, e) := Double.nearestOf 64 (-16445) num den
  ⟨m, e⟩

def ratio (w : Wide) : Nat × Nat := Double.scaled w.significand 2 w.exponent

def mul (a b : Wide) : Wide :=
  let (an, ad) := a.ratio
  let (bn, bd) := b.ratio
  ofRatio (an * bn) (ad * bd)

def div (a b : Wide) : Wide :=
  let (an, ad) := a.ratio
  let (bn, bd) := b.ratio
  ofRatio (an * bd) (ad * bn)

/-- Powers by squaring: `power`, `base` and `n` stand for `power * base ^ n`. -/
def powerFrom (power base : Wide) (n : Nat) : Wide :=
  let power := if n % 2 = 1 then power.mul base else power
  if n < 2 then power else powerFrom power (base.mul base) (n / 2)
termination_by n

def tenTo (n : Nat) : Wide := powerFrom ⟨1, 0⟩ ⟨10, 0⟩ n

end Wide

def growBy : Nat → Nat → Nat × Nat
  | 0, n => (n, 0)
  | e + 1, n => if 922337203685477580 ≤ n then (n, e + 1) else growBy e (n * 10)

def shrinkBy : Nat → Nat → Nat × Nat
  | 0, n => (n, 0)
  | e + 1, n => if n % 10 = 0 then shrinkBy e (n / 10) else (n, e + 1)

def Wide.toDouble (negative : Bool) (w : Wide) : Double :=
  let (num, den) := w.ratio
  Double.ofRatio negative num den

def rounded (num den : Nat) : Nat × Nat :=
  let (m, e) := Double.nearest num den
  Double.scaled m 2 e

def scaledBy (negative : Bool) (n : Nat) (e : Int) : Double :=
  if n = 0 then .finite negative 0 0
  else if 0 ≤ e then
    let (n, e) := growBy e.toNat n
    if 307 < e then .infinite negative
    else ((Wide.ofRatio n 1).mul (Wide.tenTo e)).toDouble negative
  else
    let (n, e) := shrinkBy (-e).toNat n
    if 342 ≤ e then .finite negative 0 0
    else if 307 < e then
      let (wn, wd) := ((Wide.ofRatio n 1).div (Wide.tenTo (e - 308))).ratio
      let (an, ad) := rounded wn wd
      let (bn, bd) := rounded (Nat.pow 10 308) 1
      Double.ofRatio negative (an * bd) (ad * bn)
    else ((Wide.ofRatio n 1).div (Wide.tenTo e)).toDouble negative

def leastWhole : Int := -9223372036854775808

def greatestWhole : Int := 9223372036854775807

def fits (n : Int) : Bool := leastWhole ≤ n && n ≤ greatestWhole

/-- Figures with a point among them or an exponent behind them; plain figures are a whole number if it
    fits. -/
def ofText? (t : Text) : Option Quantity :=
  let (negative, t) := sign (unpad t)
  let whole := t.takeWhile isFigure
  let rest := t.dropWhile isFigure
  let real (fraction : Text) (tail : Text) : Option Quantity :=
    if whole = [] ∧ fraction = [] then none
    else (exponent? tail).map fun e =>
      let (n, skipped) := takeWhole 0 whole
      let (n, places) := takeFraction n 0 fraction
      .real (scaledBy negative n (e + skipped - places))
  match rest with
  | [] =>
    if whole = [] then none
    else
      let n : Int := if negative then -(value whole : Int) else value whole
      if fits n then some (.whole n) else real [] []
  | '.' :: after => real (after.takeWhile isFigure) (after.dropWhile isFigure)
  | _ => real [] rest

def ratio : Quantity → Int × Nat
  | .whole n => (n, 1)
  | .real (.finite negative m e) =>
    let (num, den) := Double.scaled m 2 e
    (if negative then -(num : Int) else num, den)
  | .real _ => (0, 1)

def beyond : Quantity → Int
  | .real (.infinite negative) => if negative then -1 else 1
  | _ => 0

def order (a b : Quantity) : Ordering :=
  match Ord.compare a.beyond b.beyond with
  | .eq =>
    let (an, ad) := a.ratio
    let (bn, bd) := b.ratio
    Ord.compare (an * bd) (bn * ad)
  | other => other

end Quantity
end SearchBox
