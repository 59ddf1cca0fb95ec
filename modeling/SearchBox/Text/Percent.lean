import SearchBox.Text.Utf8

/- Percent codes: a byte written as a percent sign and two hexadecimal digits. -/
namespace SearchBox.Percent

def isUnreserved (c : Char) : Bool :=
  let n := c.toNat
  (48 ≤ n && n ≤ 57) || (65 ≤ n && n ≤ 90) || (97 ≤ n && n ≤ 122) ||
    c = '_' || c = '.' || c = '-' || c = '~'

def digit (n : Nat) : Char := if n < 10 then Char.ofNat (48 + n) else Char.ofNat (55 + n)

def byteCode (b : Nat) : Text := ['%', digit (b / 16), digit (b % 16)]

def encodeChar (c : Char) : Text :=
  if isUnreserved c then [c]
  else if c = ' ' then ['+']
  else (Utf8.encodeChar c).flatMap byteCode

def encode (t : Text) : Text := t.flatMap encodeChar

def encodeExcept (kept t : Text) : Text :=
  t.flatMap fun c => if isUnreserved c ∨ c ∈ kept then [c] else (Utf8.encodeChar c).flatMap byteCode

def hexValue? (c : Char) : Option Nat :=
  let n := c.toNat
  if 48 ≤ n ∧ n ≤ 57 then some (n - 48)
  else if 65 ≤ n ∧ n ≤ 70 then some (n - 55)
  else if 97 ≤ n ∧ n ≤ 102 then some (n - 87)
  else none

/-- Bytes are gathered up to the next character outside of ASCII and read together; a percent sign without
    two digits behind it stands for itself. -/
def decodeFrom (onBad : List Nat → Text) (bytes : List Nat) : Text → Text
  | [] => Utf8.decodeWith onBad bytes
  | '%' :: a :: b :: rest =>
    match hexValue? a, hexValue? b with
    | some x, some y => decodeFrom onBad (bytes ++ [16 * x + y]) rest
    | _, _ => decodeFrom onBad (bytes ++ [37]) (a :: b :: rest)
  | c :: rest =>
    if c.toNat < 128 then decodeFrom onBad (bytes ++ [c.toNat]) rest
    else Utf8.decodeWith onBad bytes ++ c :: decodeFrom onBad [] rest

/-- Bytes that are no characters become replacement characters. -/
def decode (t : Text) : Text := decodeFrom (fun _ => ['\ufffd']) [] t

def unplus (t : Text) : Text := t.map fun c => if c = '+' then ' ' else c

/-- Bytes that are no characters keep their codes; plus signs are spaces. -/
def decodeField (t : Text) : Text := decodeFrom (fun run => run.flatMap byteCode) [] (unplus t)

def fieldsOf (t : Text) : List (Text × Option Text) :=
  ((Text.splitAt '&' t).filter (· ≠ [])).map fun field =>
    match Text.cutAt? '=' field with
    | some (key, value) => (key, some value)
    | none => (field, none)

end SearchBox.Percent
