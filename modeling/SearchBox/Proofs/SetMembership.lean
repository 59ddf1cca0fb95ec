import SearchBox.Proofs.Alternatives
import SearchBox.Proofs.KeyedTerms
import SearchBox.Proofs.MissingValues
import SearchBox.Proofs.SearchRefusal

/- Sets of words, compared with the same words one by one. A word alone asks for its value, and the null word
   for a missing one; in a set, null compares with nothing. So a set without the null word selects what its
   words select singly, with the null word it loses the missing values, and negated it loses all rows. -/
namespace SearchBox
open Text Token

def setSearch (key : Text) (negated : Bool) (words : List Text) : Text :=
  key ++ ':' :: setCondition negated words

/-- Words one by one, each with whether it is an alternative to those before. Negated words are not. -/
def oneByOne (negated : Bool) : List Text → List (Bool × Text)
  | [] => []
  | first :: rest => (false, first) :: rest.map (!negated, ·)

theorem oneByOne_words (negated : Bool) (words : List Text) :
    (oneByOne negated words).map Prod.snd = words := by
  cases words with
  | nil => rfl
  | cons first rest => simp [oneByOne, Function.comp_def]

theorem mem_of_mem_oneByOne {negated : Bool} {words : List Text} {p : Bool × Text}
    (member : p ∈ oneByOne negated words) : p.2 ∈ words := by
  have inWords := List.mem_map_of_mem (f := Prod.snd) member
  rwa [oneByOne_words] at inWords

def singleSearch (key : Text) (negated : Bool) (words : List Text) : Text :=
  join [' '] ((oneByOne negated words).map fun (isOr, w) =>
    SearchTerm.headOf key isOr ++ ':' :: (wordOperator negated ++ w))

example : setSearch "age".toList true ["7".toList, nullWord] = "age:!(7,NULL)".toList := by decide

example : singleSearch "age".toList true ["7".toList, nullWord] = "age:!=7 age:!=NULL".toList := by decide

example : singleSearch "age".toList false ["7".toList, nullWord] = "age:7 |age:NULL".toList := by decide

def wordComparison (negated : Bool) : Comparison := if negated then .notEqual else .equal

def wordClause (field : Field) (negated : Bool) (w : Text) : Clause :=
  .compare field (wordComparison negated) (.ofItem w)

def wordEntry (field : Field) (negated : Bool) (p : Bool × Text) : Entry Clause :=
  ⟨if p.1 then .or else .and, wordClause field negated p.2⟩

theorem Operand.integers_ofItem (w : Text) : (Operand.ofItem w).integers = [] := by
  rw [Operand.ofItem]
  split <;> rfl

namespace Predicate
variable {q : Query} {field : Field}

theorem entryPutOn_set (debug : Bool) (found : q.table.field field.name = .ok field) (negated : Bool)
    {values : List Operand} (numberless : ∀ v ∈ values, v.integers = []) :
    entryPutOn debug q
        { column := field.name, kind := if negated then .notIn else .isIn, operands := values } =
      .ok ⟨.and, .member field negated values⟩ := by
  have made := Query.memberClause_list found values negated
  have complete {kind : Kind} (set : kind = .isIn ∨ kind = .notIn) :
      Complete { column := field.name, kind, operands := values } := by
    rcases set with rfl | rfl <;> exact ⟨by simp, by simp, by simp⟩
  cases negated <;>
    rw [entryPutOn_of_described ((complete (by simp)).describe_ok numberless), entryOn_eq, filterCall] <;>
    exact congrArg (Except.map _) made

theorem entryPutOn_word (debug : Bool) (found : q.table.field field.name = .ok field)
    (negated isOr : Bool) (w : Text) :
    entryPutOn debug q
        { column := field.name, kind := .basic, operands := [.ofItem w], isOr,
          comparator := some (if negated then "!=".toList else ['=']) } =
      .ok (wordEntry field negated (isOr, w)) := by
  have known : Operator.ofName? (Text.lower (if negated then "!=".toList else ['='])) =
      some (.compare (wordComparison negated)) := by cases negated <;> decide
  have taken : ¬ (Operand.ofItem w = .null ∧
      (Operator.compare (wordComparison negated)).takesNull = false) := by
    cases negated <;> exact fun refused => absurd refused.2 (by decide)
  have made := Query.compareClause_of_known found known (.ofItem w)
  rw [Operator.clause, if_neg taken] at made
  have complete (comparator : Option Text) :
      Complete { column := field.name, kind := .basic, operands := [.ofItem w], isOr, comparator } :=
    ⟨fun _ => ⟨_, rfl⟩, by simp, by simp⟩
  rw [entryPutOn_of_described ((complete _).describe_ok (by simp [Operand.integers_ofItem])), entryOn_eq,
    filterCall]
  change ((q.compareClause _ _ _).map _) = _
  exact congrArg (Except.map _) made

end Predicate

theorem ofItem_eq_null {w : Text} : Operand.ofItem w = .null ↔ w = nullWord := by
  rw [Operand.ofItem]
  split <;> simp_all

theorem null_mem_items {words : List Text} : .null ∈ words.map Operand.ofItem ↔ nullWord ∈ words := by
  simp [List.mem_map, ofItem_eq_null]

namespace Clause
variable {words : List Text}

theorem isOversized_words {c : Clause} (asked : c.operands = words.map .ofItem) :
    c.isOversized = false := by
  rw [isOversized, asked, List.any_map, List.any_eq_false]
  intro w _
  by_cases null : w = nullWord <;> simp [Operand.ofItem, null]

theorem isBindable_words {c : Clause} (asked : c.operands = words.map .ofItem)
    (taken : c.takesItems = true) : c.isBindable = true := by
  rw [isBindable, taken, Bool.and_true, asked, List.all_map, List.all_eq_true]
  intro w _
  rw [Function.comp_apply, Operand.ofItem]
  split <;> rfl

theorem takesItems_stored {field : Field} (stored : field.type = .int ∨ field.type.isText = true)
    (negated : Bool) (values : List Operand) : (member field negated values).takesItems = true := by
  unfold takesItems
  split
  · rename_i same
    obtain ⟨rfl, _, _⟩ := Clause.member.inj same
    rw [List.all_eq_true]
    intro v _
    rcases stored with whole | text <;> simp [*]
  · rfl

end Clause

def Row.meets (row : Row) (field : Field) (negated : Bool) (words : List Text) : Bool :=
  if negated then words.all fun w => (wordClause field negated w).valueOn row = .yes
  else words.any fun w => (wordClause field negated w).valueOn row = .yes

section Meaning
variable {row : Row} {field : Field} {words : List Text}

/-- A set holds where its words do, but with the null word among them it does not hold where the value is
    missing, and nowhere if it is negated. -/
theorem member_valueOn (negated : Bool) :
    (Clause.member field negated (words.map .ofItem)).valueOn row = .yes ↔
      row.meets field negated words = true ∧
        (nullWord ∈ words → negated = false ∧ row.cell field ≠ .null) := by
  cases negated with
  | false =>
    change Clause.memberTruth _ _ false _ = .yes ↔ _
    have met : row.meets field false words = true ↔ ∃ v ∈ words.map Operand.ofItem,
        Clause.compareTruth (row.cell field).measure field.type .equal v = .yes := by
      simp [Row.meets, wordClause, wordComparison, Clause.valueOn, Clause.truth, Except.toOption]
    rw [Clause.memberTruth_eq_yes, met, ne_eq, Cell.measure_eq_null, and_comm]
    refine and_congr_right fun ⟨v, member, holds⟩ => ?_
    by_cases null : nullWord ∈ words
    · simp [null]
    · -- a word that compares as true is not the null word, so it was compared with a value
      have present : row.cell field ≠ .null := by
        intro missing
        have some : v ≠ .null := by
          rintro rfl
          exact null (null_mem_items.mp member)
        rw [missing, Cell.measure, Clause.compareTruth_of_some .equal some] at holds
        cases holds
      simp [null, present]
  | true =>
    change Clause.memberTruth _ _ true _ = .yes ↔ _
    have met : row.meets field true words = true ↔ ∀ v ∈ words.map Operand.ofItem,
        Clause.compareTruth (row.cell field).measure field.type .notEqual v = .yes := by
      simp [Row.meets, wordClause, wordComparison, Clause.valueOn, Clause.truth, Except.toOption]
    rw [Clause.memberTruth_negated_eq_yes, met, null_mem_items, and_comm]
    simp

theorem selected_oneByOne (negated : Bool) (some : words ≠ []) :
    Selected (Clause.valueOn row) ((oneByOne negated words).map (wordEntry field negated)) ↔
      row.meets field negated words = true := by
  have items : ((oneByOne negated words).map (wordEntry field negated)).map Entry.item =
      words.map (wordClause field negated) := by
    conv_rhs => rw [← oneByOne_words negated words]
    rw [List.map_map, List.map_map]
    rfl
  cases negated with
  | false =>
    have entries : (oneByOne false words).map (wordEntry field false) ≠ [] := by
      cases words <;> simp_all [oneByOne]
    have alternatives : ∀ e ∈ ((oneByOne false words).map (wordEntry field false)).tail,
        e.connective = .or := by
      cases words <;> simp [oneByOne, wordEntry]
    rw [selected_alternatives (Clause.valueOn row) entries alternatives, items]
    simp [Row.meets]
  | true =>
    have requirements : ∀ e ∈ (oneByOne true words).map (wordEntry field true), e.connective = .and := by
      cases words <;> simp [oneByOne, wordEntry]
    rw [selected_requirements (Clause.valueOn row) requirements, items]
    simp [Row.meets]

end Meaning

section Searches
variable {map : ColumnMap} {q : Query} {key : Text} {field : Field} {words : List Text}

theorem applySearch_of_entries (debug : Bool) {raw : Text} {entries : List (Entry Clause)}
    (entriesOf : List.Forall₂ (fun p e => p.entryPutOn debug q = .ok e) (compile (some raw) map) entries) :
    (q.applySearch debug .tokens map raw).value = ⟨q.extend entries, .ok .null⟩ := by
  rw [Query.applySearch, Query.applyTokens_value, Query.filterByAll,
    Query.filterByFrom_ok debug 0 entriesOf]
  rfl

section Known
variable (addressable : Addressable key) (balanced : quoteCount key % 2 = 0)
  (known : map.resolve key = some field.name) (found : q.table.field field.name = .ok field)
  (spelled : ∀ w ∈ words, IsWord w)
include addressable balanced known found spelled

theorem applySearch_set (debug negated : Bool) (some : words ≠ []) :
    (q.applySearch debug .tokens map (setSearch key negated words)).value =
      ⟨q.extend [⟨.and, .member field negated (words.map .ofItem)⟩], .ok .null⟩ := by
  let t : SearchTerm := ⟨field.name, setCondition negated words, false⟩
  have own : ∀ t' ∈ [t], t'.column = field.name ∧ Plain t'.condition := by
    simpa [t] using setCondition_plain negated spelled
  have written : setSearch key negated words = join [' '] ([t].map (SearchTerm.written key)) := rfl
  refine applySearch_of_entries debug ?_
  rw [written, compile_keyed addressable own balanced known, List.map_singleton,
    classify_wordSet field.name negated some spelled]
  exact .cons (Predicate.entryPutOn_set debug found negated (by simp [Operand.integers_ofItem])) .nil

theorem applySearch_oneByOne (debug negated : Bool) :
    (q.applySearch debug .tokens map (singleSearch key negated words)).value =
      ⟨q.extend ((oneByOne negated words).map (wordEntry field negated)), .ok .null⟩ := by
  have spelt : ∀ p ∈ oneByOne negated words, IsWord p.2 := fun p member =>
    spelled p.2 (mem_of_mem_oneByOne member)
  have operator : Plain (wordOperator negated) := by cases negated <;> decide
  let term : Bool × Text → SearchTerm := fun p => ⟨field.name, wordOperator negated ++ p.2, p.1⟩
  have own : ∀ t ∈ (oneByOne negated words).map term, t.column = field.name ∧ Plain t.condition :=
    List.forall_mem_map.mpr fun p member => ⟨rfl, plain_append.mpr ⟨operator, (spelt p member).plain⟩⟩
  have written : singleSearch key negated words =
      join [' '] (((oneByOne negated words).map term).map (SearchTerm.written key)) := by
    rw [List.map_map]
    rfl
  refine applySearch_of_entries debug ?_
  rw [written, compile_keyed addressable own balanced known, List.map_map,
    List.forall₂_map_left_iff, List.forall₂_map_right_iff, List.forall₂_same]
  intro p member
  dsimp only [Function.comp_apply]
  rw [classify_word field.name p.1 negated (spelt p member)]
  exact Predicate.entryPutOn_word debug found negated p.1 p.2

end Known

section Unfiltered
variable (unfiltered : q.filters = []) (some : words ≠ [])
include unfiltered

theorem fetch_set (stored : field.type = .int ∨ field.type.isText = true) (negated : Bool)
    (rows : List Row) :
    (q.extend [⟨.and, .member field negated (words.map .ofItem)⟩]).fetch rows =
      .ok ((rows.filter (·.meets field negated words)).filter fun row =>
        nullWord ∈ words → negated = false ∧ row.cell field ≠ .null) := by
  let set : Entry Clause := ⟨.and, .member field negated (words.map .ofItem)⟩
  have filters : (q.extend [set]).filters = [set] := by rw [Query.extend, unfiltered, List.nil_append]
  rw [List.filter_filter]
  refine Query.fetch_filter ?_ ?_ fun row _ => ?_
  · rw [filters, List.forall_mem_singleton]
    exact Clause.isBindable_words (c := set.item) rfl (Clause.takesItems_stored stored negated _)
  · rw [filters, List.forall_mem_singleton]
    exact Clause.isOversized_words (c := set.item) rfl
  · refine Query.selects_of_judged (v := Clause.valueOn row) ?_ ?_
    · rw [filters, List.forall_mem_singleton]
      rfl
    · rw [filters, selected_single, member_valueOn, Bool.and_eq_true, decide_eq_true_iff, and_comm]

include some

theorem fetch_oneByOne (negated : Bool) (rows : List Row) :
    (q.extend ((oneByOne negated words).map (wordEntry field negated))).fetch rows =
      .ok (rows.filter (·.meets field negated words)) := by
  have filters : (q.extend ((oneByOne negated words).map (wordEntry field negated))).filters =
      (oneByOne negated words).map (wordEntry field negated) := by
    rw [Query.extend, unfiltered, List.nil_append]
  have asked (p : Bool × Text) : (wordEntry field negated p).item.operands = [p.2].map .ofItem := rfl
  refine Query.fetch_filter ?_ ?_ fun row _ => ?_
  · rw [filters]
    exact List.forall_mem_map.mpr fun p _ => Clause.isBindable_words (asked p) rfl
  · rw [filters]
    exact List.forall_mem_map.mpr fun p _ => Clause.isOversized_words (asked p)
  · refine Query.selects_of_judged (v := Clause.valueOn row) ?_ ?_
    · rw [filters]
      exact List.forall_mem_map.mpr fun p _ => rfl
    · rw [filters, selected_oneByOne negated some]

end Unfiltered

/-- Words as a set select what they select one by one, if the null word is not among them. With the null word
    a set leaves out the rows where the value is missing, and negated it leaves out all of them. -/
theorem search_set_oneByOne (debug : Bool) (map : ColumnMap) (q : Query) (unfiltered : q.filters = [])
    (key : Text) (addressable : Addressable key) (balanced : quoteCount key % 2 = 0) (field : Field)
    (known : map.resolve key = some field.name) (found : q.table.field field.name = .ok field)
    (stored : field.type = .int ∨ field.type.isText = true) (words : List Text) (some : words ≠ [])
    (spelled : ∀ w ∈ words, IsWord w) (negated : Bool) (rows : List Row) :
    let set := (q.applySearch debug .tokens map (setSearch key negated words)).value
    let single := (q.applySearch debug .tokens map (singleSearch key negated words)).value
    set.result = .ok .null ∧ single.result = .ok .null ∧
      ∃ selected, single.query.fetch rows = .ok selected ∧
        set.query.fetch rows = .ok (selected.filter fun row =>
          nullWord ∈ words → negated = false ∧ row.cell field ≠ .null) := by
  intro set single
  have setDone : set = _ := applySearch_set addressable balanced known found spelled debug negated some
  have singleDone : single = _ := applySearch_oneByOne addressable balanced known found spelled debug negated
  rw [setDone, singleDone]
  exact ⟨rfl, rfl, _, fetch_oneByOne unfiltered some negated rows, fetch_set unfiltered stored negated rows⟩

end Searches

section Missing

def ageMap : ColumnMap := [("age".toList, "age".toList)]

def sevenRow : Row := [("name".toList, .text "Eve".toList), ("age".toList, .int 7)]

def eightRow : Row := [("name".toList, .text "Joe".toList), ("age".toList, .int 8)]

def foundByAge (raw : Text) : Except Fault (List Row) :=
  ((Query.start people (some "sqlite".toList)).applySearch false .tokens ageMap raw).value.query.fetch
    [annRow, sevenRow, eightRow]

theorem search_set_oneByOne_null :
    let words := ["7".toList, nullWord]
    Addressable "age".toList ∧ ageMap.resolve "age".toList = some "age".toList ∧
      people.field "age".toList = .ok ⟨"age".toList, .int⟩ ∧ (∀ w ∈ words, IsWord w) ∧
      foundByAge (singleSearch "age".toList false words) = .ok [annRow, sevenRow] ∧
      foundByAge (setSearch "age".toList false words) = .ok [sevenRow] := by
  intro words
  have addressable : Addressable "age".toList := ⟨by decide, by decide, plain_solid (by decide)⟩
  have known : ageMap.resolve "age".toList = some "age".toList := by decide
  have field : people.field "age".toList = .ok ⟨"age".toList, .int⟩ := by decide
  have spelled : ∀ w ∈ words, IsWord w := by decide
  have single : foundByAge (singleSearch "age".toList false words) = .ok [annRow, sevenRow] := by decide
  obtain ⟨-, -, selected, found, narrowed⟩ := search_set_oneByOne false ageMap
    (Query.start people (some "sqlite".toList)) rfl "age".toList addressable (by decide)
    ⟨"age".toList, .int⟩ known field (Or.inl rfl) words (by decide) spelled false [annRow, sevenRow, eightRow]
  have both : selected = [annRow, sevenRow] := Except.ok.inj (found.symm.trans single)
  rw [both] at narrowed
  have kept : foundByAge (setSearch "age".toList false words) = _ := narrowed
  exact ⟨addressable, known, field, spelled, single, kept.trans (by decide)⟩

theorem set_loses_missing :
    foundByAge "age:7 |age:NULL".toList = .ok [annRow, sevenRow] ∧
      foundByAge "age:(7,NULL)".toList = .ok [sevenRow] ∧
      foundByAge "age:!=7 age:!=NULL".toList = .ok [eightRow] ∧
      foundByAge "age:!(7,NULL)".toList = .ok [] := by
  refine ⟨?_, ?_, ?_, ?_⟩ <;> decide +kernel

end Missing
end SearchBox
