import SearchBox.Text.Blank

/- Cutting a search text into tokens. A blank separates two tokens when an even number of double quotes
   follows it; the quotes stay in the tokens. -/
namespace SearchBox.Token

def quoteCount (t : Text) : Nat := t.count '"'

/-- The first piece and the others; a separating blank belongs to none. -/
def cut : Text → Text × List Text
  | [] => ([], [])
  | c :: rest =>
    let (first, others) := cut rest
    if isBlank c ∧ quoteCount rest % 2 = 0 then ([], first :: others) else (c :: first, others)

def tokenize (raw : Text) : List Text :=
  ((cut raw.trim).1 :: (cut raw.trim).2).filter (· ≠ [])

end SearchBox.Token
