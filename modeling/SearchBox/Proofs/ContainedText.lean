import Mathlib.Data.List.Infix
import Mathlib.Data.List.TakeWhile
import SearchBox.Proofs.ListedColumns

/- Looking for a text in columns of a store. The text becomes a pattern between two percent signs, which is met
   by everything that has the text in it. Percent signs and underscores of the text are wild themselves, so
   only a text without them is met by nothing else. -/
namespace SearchBox

/-- Whether a text is part of another one; the letters of the Latin alphabet may be small or capital. -/
def Text.FoundIn (raw t : Text) : Prop := raw.map Char.toUpper <:+: t.map Char.toUpper

instance (raw t : Text) : Decidable (raw.FoundIn t) :=
  inferInstanceAs (Decidable (raw.map Char.toUpper <:+: t.map Char.toUpper))

namespace Like
variable {raw pattern t : Text}

theorem fold_eq_toUpper (c : Char) : fold c = c.toUpper := by
  by_cases ascii : c.toNat < 128
  · have table : ∀ n < 128, fold (Char.ofNat n) = (Char.ofNat n).toUpper := by decide
    have here := table c.toNat ascii
    rwa [Char.ofNat_toNat] at here
  · have beyond : ¬ ('a'.val ≤ c.val ∧ c.val ≤ 'z'.val) := fun letter =>
      absurd (show c.toNat ≤ 122 from UInt32.le_iff_toNat_le.mp letter.2) (by omega)
    delta Char.toUpper
    rw [fold, if_neg (by omega), dif_neg beyond]

theorem foundIn_iff_fold : raw.FoundIn t ↔ raw.map fold <:+: t.map fold := by
  rw [Text.FoundIn, funext fold_eq_toUpper]

theorem anyTail_iff {p : Text → Bool} : anyTail p t = true ↔ ∃ tail, tail <:+ t ∧ p tail = true := by
  induction t with
  | nil => simp [anyTail]
  | cons c rest ih =>
    rw [anyTail, Bool.or_eq_true, ih]
    simp only [List.suffix_cons_iff, or_and_right, exists_or, exists_eq_left]

theorem matchesFrom_percent :
    matchesFrom ('%' :: pattern) t = true ↔ ∃ tail, tail <:+ t ∧ matchesFrom pattern tail = true := by
  rw [matchesFrom, anyTail_iff]

theorem matchesFrom_cons {p c : Char} (single : p ≠ '%') :
    matchesFrom (p :: pattern) (c :: t) =
      ((p = '_' || fold p = fold c) && matchesFrom pattern t) := by
  rw [matchesFrom]
  exact fun percent => single percent

theorem not_matchesFrom_nil {p : Char} (single : p ≠ '%') : matchesFrom (p :: pattern) [] = false := by
  rw [matchesFrom]
  exact fun percent => single percent

/-- A pattern matches what it is written like, even where its characters are wild: a percent sign and an
    underscore stand for a single character as well. -/
theorem matchesFrom_alike {part rest : Text} (alike : raw.map fold = part.map fold)
    (behind : matchesFrom pattern rest = true) : matchesFrom (raw ++ pattern) (part ++ rest) = true := by
  induction raw generalizing part with
  | nil =>
    obtain rfl := List.map_eq_nil_iff.mp alike.symm
    exact behind
  | cons p more ih =>
    obtain ⟨c, others, rfl, first, same⟩ := List.map_eq_cons_iff.mp alike.symm
    have tail := ih same.symm
    rw [List.cons_append, List.cons_append]
    by_cases percent : p = '%'
    · -- let the percent sign stand for the one character across from it
      rw [percent, matchesFrom_percent]
      exact ⟨others ++ rest, List.suffix_cons c _, tail⟩
    · rw [matchesFrom_cons percent, tail]
      simp [first]

theorem alike_of_matchesFrom (noPercent : '%' ∉ raw) (noUnderscore : '_' ∉ raw)
    (found : matchesFrom (raw ++ pattern) t = true) :
    ∃ part rest, t = part ++ rest ∧ raw.map fold = part.map fold ∧ matchesFrom pattern rest = true := by
  induction raw generalizing t with
  | nil => exact ⟨[], t, rfl, rfl, found⟩
  | cons p more ih =>
    have single : p ≠ '%' := (List.ne_of_not_mem_cons noPercent).symm
    have plain : p ≠ '_' := (List.ne_of_not_mem_cons noUnderscore).symm
    cases t with
    | nil =>
      rw [List.cons_append, not_matchesFrom_nil single] at found
      cases found
    | cons c t =>
      rw [List.cons_append, matchesFrom_cons single, Bool.and_eq_true] at found
      have first : fold p = fold c := by simpa [plain] using found.1
      obtain ⟨part, rest, rfl, same, behind⟩ := ih (List.not_mem_of_not_mem_cons noPercent)
        (List.not_mem_of_not_mem_cons noUnderscore) found.2
      exact ⟨c :: part, rest, rfl, by rw [List.map_cons, List.map_cons, first, same], behind⟩

theorem matchesFrom_rest : matchesFrom ['%'] t = true :=
  matchesFrom_percent.mpr ⟨[], List.nil_suffix, rfl⟩

theorem matchesFrom_containing (found : raw.FoundIn t) : matchesFrom ('%' :: raw ++ ['%']) t = true := by
  obtain ⟨part, ⟨before, rest, rfl⟩, same⟩ := List.infix_map_iff.mp (foundIn_iff_fold.mp found)
  rw [List.cons_append, matchesFrom_percent]
  refine ⟨part ++ rest, ⟨before, (List.append_assoc _ _ _).symm⟩, ?_⟩
  exact matchesFrom_alike same matchesFrom_rest

theorem foundIn_of_matchesFrom (noPercent : '%' ∉ raw) (noUnderscore : '_' ∉ raw)
    (found : matchesFrom ('%' :: raw ++ ['%']) t = true) : raw.FoundIn t := by
  rw [List.cons_append, matchesFrom_percent] at found
  obtain ⟨tail, ⟨before, rfl⟩, found⟩ := found
  obtain ⟨part, rest, rfl, same, _⟩ := alike_of_matchesFrom noPercent noUnderscore found
  rw [foundIn_iff_fold, same, List.map_append, List.map_append]
  exact ⟨before.map fold, rest.map fold, List.append_assoc _ _ _⟩

theorem matchesText_eq (patternClean : '\x00' ∉ pattern) (clean : '\x00' ∉ t) :
    matchesText pattern t = matchesFrom pattern t := by
  have kept {u : Text} (noNul : '\x00' ∉ u) : u.takeWhile (· ≠ '\x00') = u := by
    refine List.takeWhile_eq_self_iff.mpr fun c member => ?_
    simpa using ne_of_mem_of_not_mem member noNul
  rw [matchesText, kept patternClean, kept clean]

end Like

/-- Whether the text form of one of the columns has a text in it. A missing value has no text form. -/
def Row.Shows (row : Row) (columns : List Field) (raw : Text) : Prop :=
  ∃ f ∈ columns, ∃ t ∈ (row.cell f).text?, raw.FoundIn t

instance (row : Row) (columns : List Field) (raw : Text) : Decidable (row.Shows columns raw) :=
  inferInstanceAs (Decidable (∃ f ∈ columns, ∃ t ∈ (row.cell f).text?, raw.FoundIn t))

theorem Clause.likeTruth_eq_yes {form : Option Text} {pattern : Text} :
    likeTruth form (.text pattern) = .yes ↔
      ∃ t ∈ form, Like.matchesText pattern t = true := by
  cases form with
  | none => simp [likeTruth]
  | some t =>
    simp only [likeTruth, Option.mem_some_iff, exists_eq_left']
    cases Like.matchesText pattern t <;> simp [Truth.ofBool]

namespace Field
variable {q : Query} {raw : Text} {row : Row}

theorem containing_eq_yes {f : Field} (rawClean : '\x00' ∉ raw)
    (clean : ∀ t ∈ (row.cell f).text?, '\x00' ∉ t) :
    (f.containing q raw).item.valueOn row = .yes ↔
      ∃ t ∈ (row.cell f).text?, Like.matchesFrom ('%' :: raw ++ ['%']) t = true := by
  rw [valueOn_containing, Clause.likeTruth_eq_yes]
  refine exists_congr fun t => and_congr_right fun form => ?_
  rw [Like.matchesText_eq (by simpa using rawClean) (clean t form)]

end Field

namespace Query

theorem fetch_extend_containing {q : Query} (unfiltered : q.filters = []) {columns : List Field}
    (some : columns ≠ []) (raw : Text) (rows : List Row) :
    (q.extend (columns.map (Field.containing q raw))).fetch rows =
      .ok (rows.filter fun row => columns.any fun f => (f.containing q raw).item.valueOn row = .yes) := by
  have filters : (q.extend (columns.map (Field.containing q raw))).filters =
      columns.map (Field.containing q raw) := by
    rw [extend, unfiltered, List.nil_append]
  refine fetch_filter ?_ ?_ fun row _ => ?_
  · rw [filters]
    exact List.forall_mem_map.mpr fun _ _ => rfl
  · rw [filters]
    exact List.forall_mem_map.mpr fun _ _ => rfl
  · refine selects_of_judged (v := Clause.valueOn row) ?_ ?_
    · rw [filters]
      exact List.forall_mem_map.mpr fun f _ => f.judged_containing q raw row
    · have alternatives := selected_append_alternatives (Clause.valueOn row) q.filters
        (mt List.map_eq_nil_iff.mp some) (containing_alternatives (q := q) raw)
      rw [extend, alternatives, unfiltered]
      simp

/-- A text that is looked for in columns of the table, on a query without filters, finds every row that has it
    in the text form of one of them. If there is no percent sign and no underscore in it, it finds no
    other row. -/
theorem applySearch_contains (debug : Bool) (map : ColumnMap) (q : Query) (unfiltered : q.filters = [])
    (raw : Text) (columns : List Field) (some : columns ≠ [])
    (known : ∀ f ∈ columns, q.table.field f.name = .ok f) (rows : List Row) (rawClean : '\x00' ∉ raw)
    (clean : ∀ row ∈ rows, ∀ f ∈ columns, ∀ t ∈ (row.cell f).text?, '\x00' ∉ t) :
    let outcome := (q.applySearch debug (.columns (columns.map Field.name)) map raw).value
    outcome.result = .ok .null ∧
      ∃ accepts : Row → Bool, outcome.query.fetch rows = .ok (rows.filter accepts) ∧
        ∀ row ∈ rows, (row.Shows columns raw → accepts row = true) ∧
          ('%' ∉ raw → '_' ∉ raw → accepts row = true → row.Shows columns raw) := by
  intro outcome
  have done : outcome = _ := applySearch_containing debug map raw known
  rw [done]
  refine ⟨rfl, _, fetch_extend_containing unfiltered some raw rows, fun row stored => ?_⟩
  have accepted : (columns.any fun f => (f.containing q raw).item.valueOn row = .yes) = true ↔
      ∃ f ∈ columns, ∃ t ∈ (row.cell f).text?,
        Like.matchesFrom ('%' :: raw ++ ['%']) t = true := by
    rw [List.any_eq_true]
    refine exists_congr fun f => and_congr_right fun listed => ?_
    rw [decide_eq_true_iff, Field.containing_eq_yes rawClean (clean row stored f listed)]
  rw [accepted]
  constructor
  · rintro ⟨f, listed, t, form, found⟩
    exact ⟨f, listed, t, form, Like.matchesFrom_containing found⟩
  · rintro noPercent noUnderscore ⟨f, listed, t, form, found⟩
    exact ⟨f, listed, t, form, Like.foundIn_of_matchesFrom noPercent noUnderscore found⟩

def bobRow : Row := [("name".toList, .text "Bob".toList), ("age".toList, .int (-42))]

theorem applySearch_contains_number :
    let columns := [Field.mk "name".toList .string, ⟨"age".toList, .int⟩]
    let rows := [annRow, bobRow]
    let outcome := ((start people (some "sqlite".toList)).applySearch false
      (.columns (columns.map Field.name)) [] "-4".toList).value
    (∀ f ∈ columns, people.field f.name = .ok f) ∧
      (∀ row ∈ rows, ∀ f ∈ columns, ∀ t ∈ (row.cell f).text?, '\x00' ∉ t) ∧
      outcome.query.fetch rows = .ok [bobRow] := by
  intro columns rows outcome
  have known : ∀ f ∈ columns, people.field f.name = .ok f := by decide
  have clean : ∀ row ∈ rows, ∀ f ∈ columns, ∀ t ∈ (row.cell f).text?, '\x00' ∉ t := by decide
  obtain ⟨-, accepts, fetched, meaning⟩ := applySearch_contains false []
    (start people (some "sqlite".toList)) rfl "-4".toList columns (by decide) known rows (by decide) clean
  have ann := mt ((meaning annRow (by decide)).2 (by decide) (by decide)) (by decide)
  have bob := (meaning bobRow (by decide)).1 (by decide)
  refine ⟨known, clean, fetched.trans ?_⟩
  simp [rows, ann, bob]

end Query
end SearchBox
