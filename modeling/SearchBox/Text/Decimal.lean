import SearchBox.Text.Integer

/- Decimal numerals: blanks around, one sign, digits of any script with single underscores between them, a
   point and an exponent; and the words for what is infinite or no number. -/
namespace SearchBox.Decimal

def plainDigit (c : Char) : Char :=
  match decimalValue? c with
  | some d => Char.ofNat (48 + d)
  | none => c

def isPlainDigit (c : Char) : Bool := 48 ≤ c.toNat && c.toNat ≤ 57

def joined? (afterDigit : Bool) : Text → Option Text
  | [] => some []
  | '_' :: c :: rest =>
    if afterDigit && isPlainDigit c then joined? false (c :: rest) else none
  | c :: rest => if c = '_' then none else (joined? (isPlainDigit c) rest).map (c :: ·)

def dropSign : Text → Text
  | '-' :: t => t
  | '+' :: t => t
  | t => t

def words : List Text := ["inf".toList, "infinity".toList, "nan".toList]

def isExponent : Text → Bool
  | [] => true
  | c :: t => (c = 'e' || c = 'E') && dropSign t ≠ [] && (dropSign t).all isPlainDigit

def isUnsigned (t : Text) : Bool :=
  let whole := t.takeWhile isPlainDigit
  match t.dropWhile isPlainDigit with
  | '.' :: t =>
    (whole ≠ [] || t.head?.any isPlainDigit) && isExponent (t.dropWhile isPlainDigit)
  | t => whole ≠ [] && isExponent t

def isNumeral (t : Text) : Bool :=
  match joined? false ((Integer.unpad t).map plainDigit) with
  | none => false
  | some t => isUnsigned (dropSign t) || words.contains ((dropSign t).map Char.toLower)

end SearchBox.Decimal
