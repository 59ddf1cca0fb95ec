import SearchBox.Text.Blank

/- Finite maps as lists of pairs in the order of first entry. Writing a key again changes its value and
   keeps its place, so every key occurs once. -/
namespace SearchBox

abbrev Assoc (α : Type) := List (Text × α)

namespace Assoc
variable {α : Type}

def find? (m : Assoc α) (key : Text) : Option α := (List.find? (·.1 = key) m).map (·.2)

def insert : Assoc α → Text → α → Assoc α
  | [], key, value => [(key, value)]
  | (k, v) :: rest, key, value =>
    if k = key then (key, value) :: rest else (k, v) :: insert rest key value

def ofPairs (pairs : List (Text × α)) : Assoc α :=
  pairs.foldl (fun m (key, value) => insert m key value) []

theorem find?_insert (m : Assoc α) (key other : Text) (value : α) :
    find? (insert m key value) other = if key = other then some value else find? m other := by
  induction m with
  | nil => by_cases h : key = other <;> simp [insert, find?, h]
  | cons pair rest ih =>
    obtain ⟨k, v⟩ := pair
    simp only [find?] at ih ⊢
    by_cases hk : k = key
    · subst hk
      by_cases h : k = other <;> simp [insert, h]
    · by_cases h : k = other
      · subst h
        simp [insert, hk, Ne.symm hk]
      · simp [insert, hk, h, ih]

end Assoc
end SearchBox
