/- Items joined by AND and OR, as a list and as a tree. The list has no parentheses: AND binds tighter, so
   an OR starts a new group. -/
namespace SearchBox

inductive Connective where
  | and
  | or
  deriving DecidableEq, Repr

structure Entry (α : Type) where
  connective : Connective
  item : α
  deriving DecidableEq, Repr

inductive Formula (α : Type) where
  | one (item : α)
  | all (parts : List (Formula α))
  | any (parts : List (Formula α))
  deriving Repr

namespace Formula
variable {α : Type}

def wrap (wrapping : List (Formula α) → Formula α) : List (Formula α) → Formula α
  | [part] => part
  | parts => wrapping parts

theorem apply_wrap {β : Type} {f : Formula α → β} {g : List (Formula α) → β}
    {wrapping : List (Formula α) → Formula α} (single : ∀ part, g [part] = f part)
    (several : ∀ parts, f (wrapping parts) = g parts) (parts : List (Formula α)) :
    f (wrap wrapping parts) = g parts := by
  unfold wrap
  split
  · exact (single _).symm
  · exact several parts

/-- Items up to the next OR, the ones in `current` first, and then the groups after it. -/
def groupsFrom (current : List α) : List (Entry α) → List (List α)
  | [] => [current]
  | e :: rest =>
    match e.connective with
    | .and => groupsFrom (current ++ [e.item]) rest
    | .or => current :: groupsFrom [e.item] rest

/-- The runs of items that start at the first one and at every OR. -/
def groups : List (Entry α) → List (List α)
  | [] => []
  | e :: rest => groupsFrom [e.item] rest

def ofEntries (entries : List (Entry α)) : Option (Formula α) :=
  match groups entries with
  | [] => none
  | gs => some (wrap .any (gs.map fun g => wrap .all (g.map .one)))

end Formula
end SearchBox
