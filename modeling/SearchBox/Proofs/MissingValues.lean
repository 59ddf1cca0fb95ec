import SearchBox.Store.Selection

/- Comparisons where a value is missing. Asking a single null of a field is a question of its own, with an
   answer; in a set, null is a value that compares with nothing. -/
namespace SearchBox

theorem Cell.measure_eq_null {cell : Cell} : cell.measure = .null ↔ cell = .null := by
  cases cell <;> simp [measure]

theorem Truth.not_any_eq_yes {ts : List Truth} : (any ts).not = yes ↔ ∀ t ∈ ts, t.not = yes := by
  induction ts with
  | nil => simp [any, not]
  | cons t rest ih =>
    rw [List.forall_mem_cons, ← ih]
    simp only [any, List.foldr_cons]
    cases t <;> cases List.foldr or no rest <;> simp [or, not]

section Truth
variable {cell : Cell.Measure} {type : FieldType}

theorem Comparison.truth_null (c : Comparison) : c.truth cell (.ofOperand type .null) = .unknown := by
  cases cell <;> rfl

theorem Comparison.truth_notEqual (a b : Cell.Measure) :
    Comparison.notEqual.truth a b = (Comparison.equal.truth a b).not := by
  unfold truth
  cases a.order? b with
  | none => rfl
  | some o => cases o <;> rfl

namespace Clause

theorem compareTruth_of_some (c : Comparison) {value : Operand} (some : value ≠ .null) :
    compareTruth cell type c value = c.truth cell (.ofOperand type value) := by
  cases value with
  | null => exact absurd rfl some
  | text | int | list => cases c <;> rfl

theorem truth_equal_eq_yes {value : Operand} :
    Comparison.equal.truth cell (.ofOperand type value) = .yes ↔
      cell ≠ .null ∧ compareTruth cell type .equal value = .yes := by
  by_cases null : value = .null
  · rw [null, Comparison.truth_null]
    by_cases missing : cell = .null <;> simp [compareTruth, missing, Truth.ofBool]
  · rw [compareTruth_of_some .equal null, iff_and_self]
    rintro holds rfl
    cases holds

theorem truth_notEqual_eq_yes {value : Operand} :
    Comparison.notEqual.truth cell (.ofOperand type value) = .yes ↔
      value ≠ .null ∧ compareTruth cell type .notEqual value = .yes := by
  by_cases null : value = .null
  · simp [null, Comparison.truth_null]
  · rw [compareTruth_of_some .notEqual null, and_iff_right null]

theorem memberTruth_eq_yes {values : List Operand} :
    memberTruth cell type false values = .yes ↔
      cell ≠ .null ∧ ∃ v ∈ values, compareTruth cell type .equal v = .yes := by
  have found : memberTruth cell type false values = .yes ↔
      ∃ v ∈ values, Comparison.equal.truth cell (.ofOperand type v) = .yes := by
    simp [memberTruth, Truth.any_eq_yes]
  rw [found]
  simp only [truth_equal_eq_yes, and_left_comm, exists_and_left]

theorem memberTruth_negated_eq_yes {values : List Operand} :
    memberTruth cell type true values = .yes ↔
      .null ∉ values ∧ ∀ v ∈ values, compareTruth cell type .notEqual v = .yes := by
  have others : memberTruth cell type true values = .yes ↔
      ∀ v ∈ values, Comparison.notEqual.truth cell (.ofOperand type v) = .yes := by
    simp [memberTruth, Truth.not_any_eq_yes, Comparison.truth_notEqual]
  rw [others]
  simp only [truth_notEqual_eq_yes, imp_and, forall_and]
  refine and_congr_left fun _ => ⟨fun all null => all _ null rfl, fun none v member => ?_⟩
  rintro rfl
  exact none member

end Clause
end Truth

end SearchBox
