import Mathlib.Data.List.SplitBy
import SearchBox.Formula

/- The groups that filters fall into. They are collected one filter at a time, and each is a run that goes on
   up to the next OR; a filter put behind the others either goes into the last group or starts a new one. -/
namespace SearchBox.Formula
variable {α : Type}

def staysIn (_ e : Entry α) : Bool := e.connective = .and

/-- The longest runs of entries in which only the first one may be joined by OR. -/
def runs (entries : List (Entry α)) : List (List (Entry α)) := entries.splitBy staysIn

theorem isChain_concat {current : List (Entry α)} (chain : current.IsChain fun x y => staysIn x y)
    (a : α) :
    List.IsChain (fun x y => staysIn x y) (current ++ [Entry.mk .and a]) := by
  refine List.isChain_append.mpr ⟨chain, List.isChain_singleton _, ?_⟩
  intro x _ y inSingle
  obtain rfl := Option.some.inj inSingle
  rfl

/-- The group that is being collected is a run up to where it has come. -/
theorem groupsFrom_eq_runs (current entries : List (Entry α)) (some : current ≠ [])
    (chain : current.IsChain fun x y => staysIn x y) :
    groupsFrom (current.map Entry.item) entries =
      (runs (current ++ entries)).map (·.map Entry.item) := by
  -- that `current` is a chain carries the induction: nothing within it is cut
  induction entries generalizing current with
  | nil =>
    rw [List.append_nil, runs, List.splitBy_of_isChain some chain]
    rfl
  | cons e rest ih =>
    obtain ⟨connective, item⟩ := e
    cases connective with
    | and =>
      have more := ih (current ++ [⟨.and, item⟩]) (by simp) (isChain_concat chain item)
      rw [List.map_append, List.append_assoc] at more
      exact more
    | or =>
      have more := ih [⟨.or, item⟩] (by simp) (List.isChain_singleton _)
      have cut : runs (current ++ ⟨.or, item⟩ :: rest) = current :: runs (⟨.or, item⟩ :: rest) := by
        rw [runs, List.splitBy_append_cons _ (fun _ _ => rfl), List.splitBy_of_isChain some chain]
        rfl
      rw [cut]
      exact congrArg (current.map Entry.item :: ·) more

theorem groups_eq_runs (entries : List (Entry α)) :
    groups entries = (runs entries).map (·.map Entry.item) := by
  cases entries with
  | nil => rfl
  | cons e rest =>
    exact groupsFrom_eq_runs [e] rest (List.cons_ne_nil e []) (List.isChain_singleton e)

theorem groups_eq_nil {entries : List (Entry α)} : groups entries = [] ↔ entries = [] := by
  rw [groups_eq_runs, List.map_eq_nil_iff, runs, List.splitBy_eq_nil]

theorem groupsFrom_append_or (current : List α) (entries : List (Entry α)) (a : α) :
    groupsFrom current (entries ++ [⟨.or, a⟩]) = groupsFrom current entries ++ [[a]] := by
  induction entries generalizing current with
  | nil => rfl
  | cons e rest ih =>
    rw [List.cons_append, groupsFrom, groupsFrom]
    cases e.connective with
    | and => exact ih _
    | or => exact congrArg (current :: ·) (ih _)

theorem groupsFrom_append_and (current : List α) (entries : List (Entry α)) (a : α) :
    ∃ earlier last, groupsFrom current entries = earlier ++ [last] ∧
      groupsFrom current (entries ++ [⟨.and, a⟩]) = earlier ++ [last ++ [a]] := by
  induction entries generalizing current with
  | nil => exact ⟨[], current, rfl, rfl⟩
  | cons e rest ih =>
    rw [List.cons_append, groupsFrom, groupsFrom]
    cases e.connective with
    | and => exact ih _
    | or =>
      obtain ⟨earlier, last, before, after⟩ := ih [e.item]
      refine ⟨current :: earlier, last, ?_, ?_⟩
      · exact congrArg (current :: ·) before
      · exact congrArg (current :: ·) after

theorem groups_append_or (entries : List (Entry α)) (a : α) :
    groups (entries ++ [⟨.or, a⟩]) = groups entries ++ [[a]] := by
  cases entries with
  | nil => rfl
  | cons e rest => exact groupsFrom_append_or [e.item] rest a

theorem groups_append_and {entries : List (Entry α)} (some : entries ≠ []) (a : α) :
    ∃ earlier last, groups entries = earlier ++ [last] ∧
      groups (entries ++ [⟨.and, a⟩]) = earlier ++ [last ++ [a]] := by
  obtain ⟨e, rest, rfl⟩ := List.exists_cons_of_ne_nil some
  exact groupsFrom_append_and [e.item] rest a

end SearchBox.Formula
