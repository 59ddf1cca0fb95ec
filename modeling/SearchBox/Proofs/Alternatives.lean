import SearchBox.Proofs.FilterMeaning
import SearchBox.Proofs.PredicateRuns

/- Rows selected by filters that are all joined alike. Alternatives behind other filters add the rows on which
   one of them is true; requirements alone keep the rows on which all of them are. -/
namespace SearchBox
open Formula

namespace Formula
variable {α : Type}

theorem groups_append_alternatives (entries : List (Entry α)) {added : List (Entry α)}
    (alternatives : ∀ e ∈ added, e.connective = .or) :
    groups (entries ++ added) = groups entries ++ added.map fun e => [e.item] := by
  induction added generalizing entries with
  | nil => simp
  | cons e rest ih =>
    obtain ⟨first, others⟩ := List.forall_mem_cons.mp alternatives
    obtain ⟨connective, item⟩ := e
    subst first
    have whole := ih (entries ++ [⟨.or, item⟩]) others
    rw [List.append_assoc, groups_append_or, List.append_assoc] at whole
    exact whole

theorem groupsFrom_requirements (current : List α) {entries : List (Entry α)}
    (requirements : ∀ e ∈ entries, e.connective = .and) :
    groupsFrom current entries = [current ++ entries.map Entry.item] := by
  induction entries generalizing current with
  | nil => rw [groupsFrom, List.map_nil, List.append_nil]
  | cons e rest ih =>
    obtain ⟨first, others⟩ := List.forall_mem_cons.mp requirements
    rw [groupsFrom, first]
    dsimp only
    rw [ih _ others, List.append_assoc]
    rfl

theorem someHolds_append (judge : α → Except Fault Truth) (parts rest : List (Formula α)) :
    someHolds judge (parts ++ rest) =
      (someHolds judge parts).bind fun held => if held then .ok true else someHolds judge rest := by
  induction parts with
  | nil => rfl
  | cons part more ih =>
    rw [List.cons_append, someHolds, someHolds]
    cases part.holds judge with
    | error fault => rfl
    | ok held =>
      cases held with
      | true => rfl
      | false => exact ih

end Formula

section Selection
variable {α : Type} (v : α → Truth)

theorem selected_iff_of_some {entries : List (Entry α)} (some : entries ≠ []) :
    Selected v entries ↔ ∃ g ∈ groups entries, ∀ a ∈ g, v a = .yes := by
  rw [selected_iff_groups, or_iff_right some]

/-- Alternatives add the rows on which one of them is true, to none where there is no other filter. -/
theorem selected_append_alternatives (entries : List (Entry α)) {added : List (Entry α)}
    (some : added ≠ []) (alternatives : ∀ e ∈ added, e.connective = .or) :
    Selected v (entries ++ added) ↔
      entries ≠ [] ∧ Selected v entries ∨ ∃ e ∈ added, v e.item = .yes := by
  have grouped : Selected v (entries ++ added) ↔
      (∃ g ∈ groups entries, ∀ a ∈ g, v a = .yes) ∨ ∃ e ∈ added, v e.item = .yes := by
    rw [selected_iff_of_some v (by simp [some]), groups_append_alternatives entries alternatives]
    simp [or_and_right, exists_or]
  rw [grouped]
  by_cases empty : entries = []
  · simp [empty, groups]
  · rw [selected_iff_of_some v empty, and_iff_right empty]

theorem selected_alternatives {entries : List (Entry α)} (some : entries ≠ [])
    (alternatives : ∀ e ∈ entries.tail, e.connective = .or) :
    Selected v entries ↔ ∃ a ∈ entries.map Entry.item, v a = .yes := by
  obtain ⟨first, rest, rfl⟩ := List.exists_cons_of_ne_nil some
  have single : groups [first] = [[first.item]] := rfl
  have grouped := groups_append_alternatives [first] alternatives
  rw [single, List.singleton_append, List.tail_cons] at grouped
  rw [selected_iff_of_some v some, grouped]
  simp

theorem selected_requirements {entries : List (Entry α)}
    (requirements : ∀ e ∈ entries, e.connective = .and) :
    Selected v entries ↔ ∀ a ∈ entries.map Entry.item, v a = .yes := by
  cases entries with
  | nil => simp [selected_iff_groups]
  | cons first rest =>
    have others := (List.forall_mem_cons.mp requirements).2
    rw [selected_iff_of_some v (List.cons_ne_nil first rest), groups,
      groupsFrom_requirements [first.item] others]
    simp

end Selection

def Clause.valueOn (row : Row) (c : Clause) : Truth := (c.truth row).toOption.getD .unknown

namespace Query

theorem selects_of_some {q : Query} (some : q.filters ≠ []) (row : Row) :
    q.selects row =
      someHolds (Clause.truth row) ((groups q.filters).map fun g => wrap .all (g.map .one)) := by
  rw [selects, whereClause, ofEntries]
  cases split : groups q.filters with
  | nil => exact absurd (groups_eq_nil.mp split) some
  | cons g rest => exact holds_wrap_any _ _

theorem selects_extend {q : Query} {row : Row} {added : List (Entry Clause)} (some : added ≠ [])
    (alternatives : ∀ e ∈ added, e.connective = .or) {v : Clause → Truth}
    (judged : ∀ e ∈ added, e.item.truth row = .ok (v e.item)) {selected : Bool}
    (before : q.selects row = .ok selected) :
    (q.extend added).selects row =
      .ok (decide (q.filters ≠ [] ∧ selected = true ∨ ∃ e ∈ added, v e.item = .yes)) := by
  have groupsJudged : ∀ g ∈ added.map fun e => [e.item], ∀ a ∈ g, Clause.truth row a = .ok (v a) := by
    simpa using judged
  have behind := someHolds_groups v groupsJudged
  have someTrue : ((added.map fun e => [e.item]).any fun g => g.all fun a => v a = .yes) =
      decide (∃ e ∈ added, v e.item = .yes) := by
    rw [Bool.eq_iff_iff]
    simp
  have grouped := groups_append_alternatives q.filters alternatives
  have filled : (q.extend added).filters ≠ [] := by simp [extend, some]
  rw [selects_of_some filled, extend, grouped, List.map_append, someHolds_append, behind, someTrue]
  -- without filters every row was selected, by no group; the new groups decide alone
  by_cases empty : q.filters = []
  · rw [empty]
    simp [groups, someHolds, Except.bind]
  · rw [← selects_of_some empty, before]
    cases selected <;> simp [Except.bind, empty]

theorem selects_of_judged {q : Query} {row : Row} {v : Clause → Truth}
    (judged : ∀ e ∈ q.filters, e.item.truth row = .ok (v e.item)) {accepted : Bool}
    (meaning : accepted = true ↔ Selected v q.filters) : q.selects row = .ok accepted := by
  obtain ⟨selected, selects, iff⟩ := selects_eq judged
  rw [selects, Bool.eq_iff_iff.mpr (iff.trans meaning.symm)]

/-- Where every row is judged, the selected ones are found in the order of the store. -/
theorem selection_filter {q : Query} {accepts : Row → Bool} {rows : List Row}
    (judged : ∀ row ∈ rows, q.selects row = .ok (accepts row)) :
    q.selection rows = .ok (rows.filter accepts) := by
  induction rows with
  | nil => rfl
  | cons row rest ih =>
    obtain ⟨first, others⟩ := List.forall_mem_cons.mp judged
    rw [selection, first, ih others, List.filter_cons]
    rfl

theorem fetch_filter {q : Query} {accepts : Row → Bool} {rows : List Row}
    (bindable : ∀ e ∈ q.filters, e.item.isBindable = true)
    (fits : ∀ e ∈ q.filters, e.item.isOversized = false)
    (judged : ∀ row ∈ rows, q.selects row = .ok (accepts row)) :
    q.fetch rows = .ok (rows.filter accepts) := by
  have bound : ((q.filters.map (·.item)).any fun c => !c.isBindable) = false := by
    simpa using bindable
  have small : (q.filters.map (·.item)).any Clause.isOversized = false := by
    simpa using fits
  rw [fetch]
  simp only [bound, small]
  exact selection_filter judged

end Query
end SearchBox
