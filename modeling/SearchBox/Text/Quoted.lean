import SearchBox.Text.Printable

/- Texts between quotes, as messages and explanations show them. A text stands between single quotes
   unless it holds one and no double quote; what has no visible form is written by its code. -/
namespace SearchBox.Quoted

def hex : Nat → Nat → Text
  | 0, _ => []
  | count + 1, n => hex count (n / 16) ++ [Nat.digitChar (n % 16)]

def code (c : Char) : Text :=
  let n := c.toNat
  if n < 0x100 then "\\x".toList ++ hex 2 n
  else if n < 0x10000 then "\\u".toList ++ hex 4 n
  else "\\U".toList ++ hex 8 n

def escape (delimiter c : Char) : Text :=
  if c = delimiter ∨ c = '\\' then ['\\', c]
  else if c = '\n' then "\\n".toList
  else if c = '\r' then "\\r".toList
  else if c = '\t' then "\\t".toList
  else if isPrintable c then [c]
  else code c

def delimiter (t : Text) : Char := if '\'' ∈ t ∧ '"' ∉ t then '"' else '\''

def encode (t : Text) : Text := delimiter t :: t.flatMap (escape (delimiter t)) ++ [delimiter t]

end SearchBox.Quoted
