import SearchBox.Proofs.SearchKeys

/- What the value of a comparison or of a regular expression is read as. The null word is null, and a value in
   a pair of quotes loses both. Every other value is meant as it stands, but one of them is not read like
   that: a quote on its own is taken for both quotes of a pair. -/
namespace SearchBox
open Text

/-- What a value is meant for. Quotes belong to it unless there is one at each end. -/
inductive Spells : Text → Operand → Prop where
  | null : Spells nullWord .null
  | quoted (inner : Text) : Spells ('"' :: (inner ++ ['"'])) (.text inner)
  | bare {v : Text} (other : v ≠ nullWord) (unpaired : ∀ inner, v ≠ '"' :: (inner ++ ['"'])) :
      Spells v (.text v)

section Values
variable {v : Text}

/-- One quote can be both the first and the last character. -/
theorem ends_quoted : v.head? = some '"' ∧ v.getLast? = some '"' ↔
    v = ['"'] ∨ ∃ inner, v = '"' :: (inner ++ ['"']) := by
  constructor
  · rintro ⟨first, last⟩
    obtain ⟨rest, rfl⟩ := List.head?_eq_some_iff.mp first
    rcases List.eq_nil_or_concat rest with rfl | ⟨inner, c, rfl⟩
    · exact Or.inl rfl
    · rw [List.concat_eq_append, ← List.cons_append, List.getLast?_concat] at last
      cases last
      exact Or.inr ⟨inner, by simp⟩
  · rintro (rfl | ⟨inner, rfl⟩)
    · exact ⟨rfl, rfl⟩
    · exact ⟨rfl, by rw [← List.cons_append, List.getLast?_concat]⟩

theorem ofValue_lone_quote : Operand.ofValue ['"'] = .text [] := rfl

theorem ofValue_bare (other : v ≠ nullWord) (unpaired : ∀ inner, v ≠ '"' :: (inner ++ ['"']))
    (more : v ≠ ['"']) : Operand.ofValue v = .text v := by
  have open_ : ¬ (v.head? = some '"' ∧ v.getLast? = some '"') := by
    rw [ends_quoted]
    rintro (lone | ⟨inner, paired⟩)
    · exact more lone
    · exact unpaired inner paired
  rw [Operand.ofValue, if_neg other, if_neg open_]

theorem ofValue_eq_null : Operand.ofValue v = .null ↔ v = nullWord := by
  constructor
  · intro read
    unfold Operand.ofValue at read
    split at read
    · assumption
    · split at read <;> cases read
  · rintro rfl
    rfl

theorem not_spells_lone_quote : ¬ Spells ['"'] (.text []) := by
  intro spells
  generalize value : ['"'] = v at spells
  generalize read : Operand.text [] = o at spells
  cases spells with
  | null => cases read
  | quoted inner => simp at value
  | bare => simp [← value] at read

theorem spells_ofValue (v : Text) : Spells v (.ofValue v) ↔ v ≠ ['"'] := by
  constructor
  · rintro spells rfl
    exact not_spells_lone_quote spells
  · intro more
    by_cases null : v = nullWord
    · rw [null]
      exact .null
    by_cases paired : ∃ inner, v = '"' :: (inner ++ ['"'])
    · obtain ⟨inner, rfl⟩ := paired
      rw [ofValue_quotes]
      exact .quoted inner
    · have unpaired : ∀ inner, v ≠ '"' :: (inner ++ ['"']) := fun inner same => paired ⟨inner, same⟩
      rw [ofValue_bare null unpaired more]
      exact .bare null unpaired

end Values

/-- The value that a condition is compared or searched with, between percent signs where it is looked for
    inside another text. -/
def Shape.value? : Shape → Option Text
  | .regexp text => some text
  | .basic op value => some (if op = some ['%'] then '%' :: value ++ ['%'] else value)
  | .set .. | .range .. | .datePart .. | .pattern _ => none

theorem Shape.name_of_value (x : Shape) :
    x.name = "basic".toList ∨ x.name = "regexp".toList ↔ ∃ v, x.value? = some v := by
  cases x with
  | basic op value => exact iff_of_true (Or.inl rfl) ⟨_, rfl⟩
  | regexp text => exact iff_of_true (Or.inr rfl) ⟨text, rfl⟩
  | set | range | datePart | pattern =>
    dsimp only [name]
    exact iff_of_false (by decide) nofun

theorem Shape.operands_of_value {x : Shape} {v : Text} (t : SearchTerm) (found : x.value? = some v) :
    (x.predicate t).operands = [.ofValue v] := by
  cases x with
  | regexp text =>
    cases found
    rfl
  | basic op value =>
    cases found
    by_cases percent : op = some ['%']
    · simp only [predicate, percent, if_true]
    · simp only [predicate, percent, if_false]
  | set | range | datePart | pattern => cases found

/-- A comparison or a regular expression has one operand, and it is what the value of the condition is meant
    for, unless the value is a quote on its own: then the operand is the empty text. -/
theorem SearchTerm.classify_value (t : SearchTerm) :
    ((Shape.ofCondition t.condition).name = "basic".toList ∨
          (Shape.ofCondition t.condition).name = "regexp".toList ↔
        ∃ v, (Shape.ofCondition t.condition).value? = some v) ∧
      ∀ v, (Shape.ofCondition t.condition).value? = some v →
        ∃ o, t.classify.operands = [o] ∧ (o = .null ↔ v = nullWord) ∧ (Spells v o ↔ v ≠ ['"']) ∧
          (v = ['"'] → o = .text []) := by
  refine ⟨Shape.name_of_value _, ?_⟩
  intro v found
  refine ⟨.ofValue v, Shape.operands_of_value t found, ofValue_eq_null, spells_ofValue v, ?_⟩
  rintro rfl
  exact ofValue_lone_quote

theorem SearchTerm.lone_quote_lost :
    ¬ ∀ (t : SearchTerm) (v : Text), (Shape.ofCondition t.condition).value? = some v →
        ∃ o, t.classify.operands = [o] ∧ Spells v o := by
  intro all
  let t : SearchTerm := ⟨"name".toList, ['"'], false⟩
  have read : t.classify.operands = [.text []] := by decide
  obtain ⟨o, operands, spells⟩ := all t ['"'] (by decide)
  rw [read] at operands
  cases operands
  exact not_spells_lone_quote spells

end SearchBox
