/- Texts are lists of characters, so that scanners and their laws go by recursion. Blanks are the
   characters that separate words; a trimmed text neither starts nor ends with one. -/
namespace SearchBox

abbrev Text := List Char

def isBlank (c : Char) : Bool :=
  let n := c.toNat
  (9 ≤ n && n ≤ 13) || (28 ≤ n && n ≤ 32) || n == 0x85 || n == 0xA0 || n == 0x1680 ||
    (0x2000 ≤ n && n ≤ 0x200A) || n == 0x2028 || n == 0x2029 || n == 0x202F || n == 0x205F ||
    n == 0x3000

namespace Text

def trimStart (t : Text) : Text := t.dropWhile isBlank

def trimEnd (t : Text) : Text := (t.reverse.dropWhile isBlank).reverse

def trim (t : Text) : Text := trimEnd (trimStart t)

def cutAt? (sep : Char) : Text → Option (Text × Text)
  | [] => none
  | c :: rest =>
    if c = sep then some ([], rest) else (cutAt? sep rest).map fun (before, after) => (c :: before, after)

def cutAtLast? (sep : Char) (t : Text) : Option (Text × Text) :=
  (cutAt? sep t.reverse).map fun (after, before) => (before.reverse, after.reverse)

def unifyLines : Text → Text
  | '\r' :: '\n' :: rest => '\n' :: unifyLines rest
  | '\r' :: rest => '\n' :: unifyLines rest
  | c :: rest => c :: unifyLines rest
  | [] => []

def splitAt (sep : Char) : Text → List Text
  | [] => [[]]
  | c :: rest =>
    if c = sep then [] :: splitAt sep rest
    else match splitAt sep rest with
      | [] => [[c]]
      | piece :: pieces => (c :: piece) :: pieces

def join (sep : Text) : List Text → Text
  | [] => []
  | [piece] => piece
  | piece :: pieces => piece ++ sep ++ join sep pieces

def ofNat (n : Nat) : Text := (toString n).toList

/-- The digits of `n` after as many zeros as `width` asks for. -/
def padded (width n : Nat) : Text :=
  let digits := ofNat n
  List.replicate (width - digits.length) '0' ++ digits

def ofInt (n : Int) : Text :=
  match n with
  | .ofNat k => ofNat k
  | .negSucc k => '-' :: ofNat (k + 1)

def order : Text → Text → Ordering
  | [], [] => .eq
  | [], _ :: _ => .lt
  | _ :: _, [] => .gt
  | a :: as, b :: bs =>
    match Ord.compare a.toNat b.toNat with
    | .eq => order as bs
    | other => other

end Text
end SearchBox
