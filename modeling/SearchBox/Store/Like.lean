import SearchBox.Text.Blank

/- Matching a whole text with a pattern in which a percent sign stands for any run of characters and an
   underscore for any single one. The letters of the Latin alphabet match without regard to case;
   pattern and text end at their first NUL. -/
namespace SearchBox.Like

def fold (c : Char) : Char :=
  if 97 ≤ c.toNat ∧ c.toNat ≤ 122 then Char.ofNat (c.toNat - 32) else c

def anyTail (p : Text → Bool) : Text → Bool
  | [] => p []
  | c :: rest => p (c :: rest) || anyTail p rest

def matchesFrom : Text → Text → Bool
  | [], t => t.isEmpty
  | '%' :: pattern, t => anyTail (matchesFrom pattern) t
  | _ :: _, [] => false
  | p :: pattern, c :: t => (p = '_' || fold p = fold c) && matchesFrom pattern t

def matchesText (pattern t : Text) : Bool :=
  matchesFrom (pattern.takeWhile (· ≠ '\x00')) (t.takeWhile (· ≠ '\x00'))

end SearchBox.Like
