import SearchBox.Proofs.Alternatives
import SearchBox.Proofs.PairedRuns

/- A text that is looked for in listed columns. Each of them is matched with the text by an alternative of its
   own, so the filters that are there already do not narrow the search: it adds rows to theirs. -/
namespace SearchBox

/-- The filters of a query with a value for each, whatever they ask for. -/
def valued {α : Type} (filters : List (Entry α)) (values : List Truth) : List (Entry Truth) :=
  List.zipWith (fun e t => ⟨e.connective, t⟩) filters values

section Valued
variable {α : Type} {filters : List (Entry α)} {values : List Truth}

theorem valued_append (added : List (Entry α)) (new : List Truth) (same : values.length = filters.length) :
    valued (filters ++ added) (values ++ new) = valued filters values ++ valued added new :=
  List.zipWith_append same.symm

theorem valued_items (same : values.length = filters.length) :
    (valued filters values).map Entry.item = values := by
  induction filters generalizing values with
  | nil => rw [List.length_eq_zero_iff.mp same, valued, List.zipWith_nil_right, List.map_nil]
  | cons e rest ih =>
    obtain ⟨t, more, rfl⟩ := List.exists_cons_of_length_eq_add_one same
    exact congrArg (t :: ·) (ih (Nat.succ.inj same))

theorem valued_eq_nil (same : values.length = filters.length) :
    valued filters values = [] ↔ filters = [] := by
  rw [← List.map_eq_nil_iff (f := Entry.item), valued_items same, ← List.length_eq_zero_iff, same,
    List.length_eq_zero_iff]

theorem valued_connective {c : Connective} (joined : ∀ e ∈ filters, e.connective = c) :
    ∀ e ∈ valued filters values, e.connective = c := by
  induction filters generalizing values with
  | nil => simp [valued]
  | cons e rest ih =>
    obtain ⟨first, others⟩ := List.forall_mem_cons.mp joined
    cases values with
    | nil => simp [valued]
    | cons t more => exact List.forall_mem_cons.mpr ⟨first, ih others⟩

end Valued

def Field.containing (q : Query) (raw : Text) (f : Field) : Entry Clause :=
  ⟨.or, .matching f (patternStyle q.dialect) (.text ('%' :: raw ++ ['%']))⟩

namespace Field
variable (q : Query) (raw : Text) (f : Field)

theorem entryPutOn_containing {f : Field} (known : q.table.field f.name = .ok f) (debug : Bool) :
    (Predicate.ofPattern f.name ('%' :: raw ++ ['%'])).entryPutOn debug q = .ok (f.containing q raw) := by
  rw [Predicate.entryPutOn_of_described ⟨_, rfl⟩, Predicate.entryOn_eq, Predicate.pattern_clause rfl]
  change Except.map _ ((q.table.field f.name).bind _) = _
  rw [known]
  change Except.map _ ((Operator.matching (patternStyle q.dialect)).clause f _) = _
  rw [Operator.clause_pattern]
  rfl

theorem truth_containing (row : Row) :
    (f.containing q raw).item.truth row =
      .ok (Clause.likeTruth (row.cell f).text? (.text ('%' :: raw ++ ['%']))) := by
  rw [containing, patternStyle]
  split <;> rfl

theorem valueOn_containing (row : Row) :
    (f.containing q raw).item.valueOn row =
      Clause.likeTruth (row.cell f).text? (.text ('%' :: raw ++ ['%'])) := by
  rw [Clause.valueOn, truth_containing]
  rfl

theorem judged_containing (row : Row) :
    (f.containing q raw).item.truth row = .ok ((f.containing q raw).item.valueOn row) := by
  rw [truth_containing, valueOn_containing]

end Field

namespace Query
variable {q : Query} {columns : List Field}

theorem applySearch_containing (debug : Bool) (map : ColumnMap) (raw : Text)
    (known : ∀ f ∈ columns, q.table.field f.name = .ok f) :
    (q.applySearch debug (.columns (columns.map Field.name)) map raw).value =
      ⟨q.extend (columns.map (Field.containing q raw)), .ok .null⟩ := by
  have entriesOf : List.Forall₂ (fun p e => p.entryPutOn debug q = .ok e)
      ((columns.map Field.name).map (Predicate.ofPattern · ('%' :: raw ++ ['%'])))
      (columns.map (Field.containing q raw)) := by
    rw [List.map_map, List.forall₂_map_left_iff, List.forall₂_map_right_iff, List.forall₂_same]
    exact fun f member => Field.entryPutOn_containing q raw (known f member) debug
  rw [applySearch, applyColumns_value, filterByAll, filterByFrom_ok debug 0 entriesOf]
  rfl

theorem containing_alternatives (raw : Text) :
    ∀ e ∈ columns.map (Field.containing q raw), e.connective = .or :=
  List.forall_mem_map.mpr fun _ _ => rfl

/-- A text that is looked for in columns of the table puts one alternative for each of them behind the filters
    of a query, in the order of the list and with the text as it is. Whatever the values of the filters are,
    a row is selected then if it was selected by the filters before, if there were any, or if one of the
    new ones is true; and so is every row of a store that the query can judge. -/
theorem applySearch_listed (debug : Bool) (map : ColumnMap) (q : Query) (raw : Text)
    (columns : List Field) (some : columns ≠ [])
    (known : ∀ f ∈ columns, q.table.field f.name = .ok f) :
    let outcome := (q.applySearch debug (.columns (columns.map Field.name)) map raw).value
    let added := columns.map (Field.containing q raw)
    outcome = ⟨q.extend added, .ok .null⟩ ∧
      (∀ before new : List Truth, before.length = q.filters.length → new.length = columns.length →
        (Selected id (valued outcome.query.filters (before ++ new)) ↔
          q.filters ≠ [] ∧ Selected id (valued q.filters before) ∨ .yes ∈ new)) ∧
      ∀ row selected, q.selects row = .ok selected →
        outcome.query.selects row =
          .ok (decide (q.filters ≠ [] ∧ selected = true ∨ ∃ e ∈ added, e.item.truth row = .ok .yes)) := by
  intro outcome added
  have done : outcome = ⟨q.extend added, .ok .null⟩ := applySearch_containing debug map raw known
  have filled : added ≠ [] := by simpa [added] using some
  have alternatives : ∀ e ∈ added, e.connective = .or := containing_alternatives raw
  refine ⟨done, ?_, ?_⟩
  · intro before new sameBefore sameNew
    have sameAdded : new.length = added.length := by rw [sameNew, List.length_map]
    have items := valued_items sameAdded
    rw [done, extend, valued_append added new sameBefore,
      selected_append_alternatives id _ (mt (valued_eq_nil sameAdded).mp filled)
        (valued_connective alternatives), ne_eq, valued_eq_nil sameBefore]
    conv_rhs => rw [← items, List.mem_map]
    rfl
  · intro row selected before
    have judged : ∀ e ∈ added, e.item.truth row = .ok (e.item.valueOn row) :=
      List.forall_mem_map.mpr fun f _ => f.judged_containing q raw row
    have same : (∃ e ∈ added, e.item.truth row = .ok .yes) ↔ ∃ e ∈ added, e.item.valueOn row = .yes := by
      refine exists_congr fun e => and_congr_right fun member => ?_
      rw [judged e member, Except.ok.injEq]
    rw [done, selects_extend filled alternatives judged before]
    simp only [same]

/-- A search that was narrowed to grown-ups finds a row whose age is missing. The text is a pattern itself. -/
theorem applySearch_listed_narrowed :
    let q : Query := { table := people, dialect := "sqlite".toList, filters := [⟨.and, adult⟩] }
    let outcome := (q.applySearch true (.columns ["age".toList, "name".toList]) [] "N_".toList).value
    (∀ f ∈ [Field.mk "age".toList .int, ⟨"name".toList, .string⟩], people.field f.name = .ok f) ∧
      q.selects annRow = .ok false ∧ outcome.query.selects annRow = .ok true := by
  intro q outcome
  have known : ∀ f ∈ [Field.mk "age".toList .int, ⟨"name".toList, .string⟩], people.field f.name = .ok f := by
    decide
  have laws := applySearch_listed true [] q "N_".toList _ (by simp) known
  have missed : q.selects annRow = .ok false := by decide
  exact ⟨known, missed, (laws.2.2 annRow false missed).trans (by decide)⟩

end Query
end SearchBox
