import SearchBox.Text.Digit

/- Reading whole numbers: blanks around, one sign, decimal digits of any script with single
   underscores between them. The four separators that count as blanks elsewhere are not skipped here.
   Numbers that have too many digits can neither be read nor be written. -/
namespace SearchBox.Integer

inductive ReadError where
  | malformed
  /-- More digits than a number may have; holds their count. -/
  | tooLong (digits : Nat)
  deriving DecidableEq, Repr

def digitLimit : Nat := 4300

def isPadding (c : Char) : Bool := isBlank c && !(28 ≤ c.toNat && c.toNat ≤ 31)

def unpad (t : Text) : Text := ((t.dropWhile isPadding).reverse.dropWhile isPadding).reverse

def startsWithDecimal : Text → Bool
  | [] => false
  | c :: _ => isDecimal c

/-- The leading digits and what follows them; fails on an underscore without a digit on each side. -/
def leadingDigits? (afterDigit : Bool) : Text → Option (List Nat × Text)
  | [] => some ([], [])
  | c :: rest =>
    match decimalValue? c with
    | some d => (leadingDigits? true rest).map fun (ds, tail) => (d :: ds, tail)
    | none =>
      if c = '_' then
        if afterDigit && startsWithDecimal rest then leadingDigits? false rest else none
      else some ([], c :: rest)

def magnitude (t : Text) : Except ReadError Nat :=
  match leadingDigits? false t with
  | none => .error .malformed
  | some (ds, rest) =>
    if digitLimit < ds.length then .error (.tooLong ds.length)
    else if ds = [] ∨ rest ≠ [] then .error .malformed
    else .ok (digitsValue ds)

def read (t : Text) : Except ReadError Int :=
  match unpad t with
  | '-' :: rest => (magnitude rest).map fun n => -(n : Int)
  | '+' :: rest => (magnitude rest).map Int.ofNat
  | rest => (magnitude rest).map Int.ofNat

/-- The least number with more digits than a number may have. -/
def bound : Nat := Nat.pow 10 digitLimit

def written? (n : Int) : Option Text := if n.natAbs < bound then some (Text.ofInt n) else none

end SearchBox.Integer
