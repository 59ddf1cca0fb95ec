import SearchBox.Proofs.CompiledForm
import SearchBox.Proofs.PredicateRuns

/- The two ways in which a search text is refused: an order is asked for with null, or a numeric part of a
   moment is compared with digits that make up no number. A refusal keeps what went on before it. -/
namespace SearchBox

def orderings : List Text := [">".toList, ">=".toList, "<".toList, "<=".toList]

namespace Predicate

/-- Whether a numeric part of a moment is compared with `v`, which is made of digits only. -/
structure HasDigits (p : Predicate) (v : Text) : Prop where
  kind : p.kind = .datePart
  part : ∃ part ∈ [DatePart.day, .month, .year], p.datePart = some part
  operand : p.operands = [.text v]
  digits : v.trim ≠ [] ∧ ∀ c ∈ v.trim, isDigit c = true

inductive RefusedWith (p : Predicate) : Fault → Prop where
  | orderedNull {op : Text} (kind : p.kind = .basic) (ordering : op ∈ orderings)
      (comparator : p.comparator = some op) (null : p.operands = [.null]) : RefusedWith p .nullOperand
  | malformed {v : Text} (digits : p.HasDigits v) (read : Integer.read v = .error .malformed) :
      RefusedWith p (.malformedInteger v)
  | tooLong {v : Text} {count : Nat} (digits : p.HasDigits v)
      (read : Integer.read v = .error (.tooLong count)) : RefusedWith p (.integerTooLong count)

end Predicate

theorem comparators_operator {op : Text} (known : op ∈ comparators) (other : op ≠ "like".toList) :
    ∃ comparison, Operator.ofName? op.lower = some (.compare comparison) ∧
      ((Operator.compare comparison).takesNull = false ↔ op ∈ orderings) := by
  simp only [comparators, List.mem_cons, List.not_mem_nil, or_false] at known
  rcases known with rfl | rfl | rfl | rfl | rfl | rfl | rfl
  · exact ⟨.equal, by decide⟩
  · exact ⟨.notEqual, by decide⟩
  · exact ⟨.less, by decide⟩
  · exact ⟨.lessEqual, by decide⟩
  · exact ⟨.greater, by decide⟩
  · exact ⟨.greaterEqual, by decide⟩
  · exact absurd rfl other

theorem Integer.ofText_error {v : Text} {fault : Fault} :
    Integer.ofText v = .error fault ↔
      Integer.read v = .error .malformed ∧ fault = .malformedInteger v ∨
        ∃ count, Integer.read v = .error (.tooLong count) ∧ fault = .integerTooLong count := by
  unfold Integer.ofText
  cases Integer.read v with
  | ok n => simp
  | error e => cases e <;> simp [eq_comm]

namespace Query
variable {q : Query} {column : Text} {field : Field} {fault : Fault}

theorem compareClause_of_known {name : Text} {op : Operator} (found : q.table.field column = .ok field)
    (known : Operator.ofName? name.lower = some op) (value : Operand) :
    q.compareClause (.text column) (.text name) value = op.clause field value := by
  rw [compareClause_of_operator q known, Table.fieldOf_text, found]
  rfl

theorem memberClause_list (found : q.table.field column = .ok field) (items : List Operand)
    (negated : Bool) :
    q.memberClause (.text column) (.list items) negated = .ok (.member field negated items) := by
  rw [memberClause, Table.fieldOf_text, found]
  rfl

theorem betweenClause_pair (found : q.table.field column = .ok field) (low high : Operand) :
    q.betweenClause (.text column) (.list [low, high]) = .ok (.between field low high) := by
  rw [betweenClause, Table.fieldOf_text, found]
  rfl

theorem partValue_error {part : DatePart} {v : Text} :
    partValue part (.text v) = .error fault ↔
      (part.isNumeric = true ∧ v.trim ≠ [] ∧ v.trim.all isDigit = true) ∧
        Integer.ofText v = .error fault := by
  rw [partValue]
  split
  · rename_i digits
    rw [map_error]
    exact (and_iff_right digits).symm
  · rename_i others
    exact iff_of_false nofun fun number => others number.1

theorem partClause_of_known (found : q.table.field column = .ok field) (part : DatePart) (value : Operand) :
    q.partClause (.text part.name) (.text column) value =
      (partValue part value).map (.part field part (q.partForm part)) := by
  rw [partClause, DatePart.ofOperand_ok.mpr rfl, Table.fieldOf_text, found]
  rfl

end Query

theorem Operator.clause_error {op : Operator} {field : Field} {value : Operand} {fault : Fault} :
    op.clause field value = .error fault ↔
      value = .null ∧ op.takesNull = false ∧ fault = .nullOperand := by
  unfold clause
  split
  · rename_i refused
    simp [refused, eq_comm]
  · rename_i accepted
    constructor
    · cases op <;> exact fun same => nomatch same
    · exact fun ⟨null, takes, _⟩ => absurd ⟨null, takes⟩ accepted

namespace Predicate
variable {p : Predicate} {q : Query} {field : Field} {fault : Fault}

theorem entryOn_error_of_call {c : FilterCall} (calls : p.filterCall q = .ok c) :
    p.entryOn q = .error fault ↔ q.clause c = .error fault := by
  rw [entryOn_eq, calls, map_error]
  rfl

theorem not_refusedWith (notBasic : p.kind ≠ .basic) (notPart : p.kind ≠ .datePart) :
    ¬ p.RefusedWith fault := by
  intro refused
  cases refused with
  | orderedNull kind => exact notBasic kind
  | malformed digits => exact notPart digits.kind
  | tooLong digits => exact notPart digits.kind

theorem filterCall_like (q : Query) (column : Text) (isOr : Bool) (pattern : Operand) :
    filterCall { column, kind := .like, operands := [pattern], isOr } q =
      .ok (if q.prefersIlike then .ilike column pattern else .like column pattern) := by
  rw [filterCall, resolvedKind]
  cases q.prefersIlike <;> rfl

theorem refusedWith_basic {column op : Text} {value : Operand} {isOr : Bool} :
    RefusedWith { column, kind := .basic, operands := [value], isOr, comparator := some op } fault ↔
      value = .null ∧ op ∈ orderings ∧ fault = .nullOperand := by
  constructor
  · intro refused
    cases refused with
    | orderedNull kind ordering comparator null =>
      cases comparator
      cases null
      exact ⟨rfl, ordering, rfl⟩
    | malformed digits => cases digits.kind
    | tooLong digits => cases digits.kind
  · rintro ⟨rfl, ordering, rfl⟩
    exact .orderedNull rfl ordering rfl rfl

theorem hasDigits_datePart (column : Text) (isOr : Bool) {value : Text} {part : DatePart} :
    HasDigits { column, kind := .datePart, operands := [.text value], isOr, datePart := some part } value ↔
      part.isNumeric = true ∧ value.trim ≠ [] ∧ value.trim.all isDigit = true := by
  have numeric : (∃ known ∈ [DatePart.day, .month, .year], some part = some known) ↔
      part.isNumeric = true := by
    cases part <;> simp [DatePart.isNumeric]
  rw [← numeric, List.all_eq_true]
  exact ⟨fun h => ⟨h.part, h.digits⟩, fun h => ⟨rfl, h.1, rfl, h.2⟩⟩

theorem refusedWith_datePart {column value : Text} {isOr : Bool} {part : DatePart} :
    RefusedWith { column, kind := .datePart, operands := [.text value], isOr, datePart := some part }
        fault ↔
      (part.isNumeric = true ∧ value.trim ≠ [] ∧ value.trim.all isDigit = true) ∧
        Integer.ofText value = .error fault := by
  rw [← hasDigits_datePart column isOr, Integer.ofText_error]
  constructor
  · intro refused
    cases refused with
    | orderedNull kind => cases kind
    | malformed digits read =>
      cases digits.operand
      exact ⟨digits, Or.inl ⟨read, rfl⟩⟩
    | tooLong digits read =>
      cases digits.operand
      exact ⟨digits, Or.inr ⟨_, read, rfl⟩⟩
  · rintro ⟨digits, ⟨read, rfl⟩ | ⟨count, read, rfl⟩⟩
    · exact .malformed digits read
    · exact .tooLong digits read

theorem Compiled.entryOn_error (compiled : p.Compiled) (found : q.table.field p.column = .ok field) :
    p.entryOn q = .error fault ↔ p.RefusedWith fault := by
  -- only comparators and parts of a moment can be refused; the other shapes never get to a fault
  cases compiled with
  | set column isOr negated some filled fits =>
    cases negated
    · rw [entryOn_error_of_call rfl, Query.clause, Query.memberClause_list found]
      exact iff_of_false nofun (not_refusedWith nofun nofun)
    · rw [entryOn_error_of_call rfl, Query.clause, Query.memberClause_list found]
      exact iff_of_false nofun (not_refusedWith nofun nofun)
  | between column isOr =>
    rw [entryOn_error_of_call rfl, Query.clause, Query.betweenClause_pair found]
    exact iff_of_false nofun (not_refusedWith nofun nofun)
  | datePart column isOr part =>
    rw [entryOn_error_of_call rfl, partOperand, Query.clause, Query.partClause_of_known found,
      map_error, Query.partValue_error, refusedWith_datePart]
  | @like column isOr inner some noPercent =>
    rw [entryOn_error_of_call (filterCall_like q column isOr _)]
    refine iff_of_false ?_ (not_refusedWith nofun nofun)
    split
    · rw [Query.clause, Query.compareClause_of_known found Operator.ofName?_ilike,
        Operator.clause_error]
      exact nofun
    · rw [Query.clause, Query.compareClause_of_known found Operator.ofName?_like,
        Operator.clause_error]
      exact nofun
  | regexp column isOr =>
    rw [entryOn_error_of_call rfl, Query.clause,
      Query.compareClause_of_known found Operator.ofName?_regexp, Operator.clause_error]
    exact iff_of_false nofun (not_refusedWith nofun nofun)
  | compare column isOr known other =>
    obtain ⟨comparison, named, ordering⟩ := comparators_operator known other
    rw [entryOn_error_of_call rfl, Query.clause, Option.elim_some,
      Query.compareClause_of_known found named, Operator.clause_error, ordering, refusedWith_basic]
  | contains column isOr =>
    rw [entryOn_error_of_call rfl, Query.clause, Option.elim_some,
      Query.compareClause_of_known found Operator.ofName?_like, Operator.clause_error,
      refusedWith_basic]
    exact iff_of_false nofun nofun

end Predicate

/-- Whether `last` is `q` with one filter more for each of `ps`, in their order, each the one that its
    predicate puts on `q` by itself. -/
def Query.PutOn (q : Query) (ps : List Predicate) (last : Query) : Prop :=
  ∃ entries, List.Forall₂ (fun p e => q.filterBy p = .ok (q.append e)) ps entries ∧
    last = q.extend entries

section Searches
variable {map : ColumnMap} {q : Query} {raw : Text} {ps : List Predicate}

theorem field_of_mem {name : Text} (member : ∃ field ∈ q.table.fields, field.name = name) :
    ∃ field, q.table.field name = .ok field := by
  obtain ⟨field, found⟩ := Option.isSome_iff_exists.mp
    (List.find?_isSome.mpr (by simpa using member : ∃ field ∈ q.table.fields, decide (field.name = name)))
  rw [Table.field, found]
  exact ⟨field, rfl⟩

theorem exists_entries {R : Predicate → Entry Clause → Prop} (each : ∀ p ∈ ps, ∃ e, R p e) :
    ∃ entries, List.Forall₂ R ps entries := by
  induction ps with
  | nil => exact ⟨[], .nil⟩
  | cons p rest ih =>
    obtain ⟨e, entry⟩ := each p List.mem_cons_self
    obtain ⟨entries, others⟩ := ih fun r member => each r (List.mem_cons_of_mem p member)
    exact ⟨e :: entries, .cons entry others⟩

theorem putOn_of_entries {debug : Bool} {entries : List (Entry Clause)}
    (entriesOf : List.Forall₂ (fun p e => p.entryPutOn debug q = .ok e) ps entries) :
    q.PutOn ps (q.extend entries) := by
  refine ⟨entries, entriesOf.imp fun p e entry => ?_, rfl⟩
  rw [Query.filterBy_eq, Predicate.entryOn_of_entryPutOn entry]
  rfl

theorem exists_first {P : Predicate → Prop} (some : ∃ p ∈ ps, P p) :
    ∃ before p after, ps = before ++ p :: after ∧ (∀ b ∈ before, ¬ P b) ∧ P p := by
  classical
  obtain ⟨p, found⟩ := Option.isSome_iff_exists.mp
    (List.find?_isSome.mpr (by simpa using some : ∃ p ∈ ps, decide (P p)))
  obtain ⟨holds, before, after, rfl, none⟩ := List.find?_eq_some_iff_append.mp found
  exact ⟨before, p, after, rfl, by simpa using none, by simpa using holds⟩

section Known
variable (known : ∀ key column, Assoc.find? map key = some column →
  ∃ field ∈ q.table.fields, field.name = column)
include known

theorem entryPutOn_error_of_mem (debug : Bool) {p : Predicate} {fault : Fault}
    (member : p ∈ compile (some raw) map) :
    p.entryPutOn debug q = .error fault ↔ p.RefusedWith fault := by
  obtain ⟨compiled, key, column⟩ := compiled_of_mem_compile member
  obtain ⟨field, found⟩ := field_of_mem (known key p.column column)
  rw [Predicate.entryPutOn_of_described compiled.describe_ok]
  exact compiled.entryOn_error found

theorem entries_of_accepted (debug : Bool) (within : ∀ p ∈ ps, p ∈ compile (some raw) map)
    (accepted : ∀ p ∈ ps, ∀ fault, ¬ p.RefusedWith fault) :
    ∃ entries, List.Forall₂ (fun p e => p.entryPutOn debug q = .ok e) ps entries := by
  refine exists_entries fun p member => ?_
  cases entry : p.entryPutOn debug q with
  | ok e => exact ⟨e, rfl⟩
  | error fault =>
    have refused := (entryPutOn_error_of_mem known debug (within p member)).mp entry
    exact absurd refused (accepted p member fault)

theorem applySearch_refused (debug : Bool) {before after : List Predicate} {p : Predicate} {fault : Fault}
    (cut : compile (some raw) map = before ++ p :: after)
    (accepted : ∀ b ∈ before, ∀ fault, ¬ b.RefusedWith fault) (refused : p.RefusedWith fault) :
    (q.applySearch debug .tokens map raw).value.result = .error fault ∧
      q.PutOn before (q.applySearch debug .tokens map raw).value.query := by
  have within : ∀ b ∈ before ++ p :: after, b ∈ compile (some raw) map := fun b member => cut ▸ member
  obtain ⟨entries, entriesOf⟩ := entries_of_accepted known debug
    (fun b member => within b (List.mem_append_left _ member)) accepted
  have stopped := (entryPutOn_error_of_mem known debug (within p (by simp))).mpr refused
  have stops := Query.filterByFrom_refused debug 0 entriesOf stopped after
  rw [Query.applySearch, Query.applyTokens_value, cut, Query.filterByAll, stops]
  exact ⟨rfl, putOn_of_entries entriesOf⟩

theorem applySearch_accepted (debug : Bool)
    (accepted : ∀ p ∈ compile (some raw) map, ∀ fault, ¬ p.RefusedWith fault) :
    (q.applySearch debug .tokens map raw).value.result = .ok .null ∧
      q.PutOn (compile (some raw) map) (q.applySearch debug .tokens map raw).value.query := by
  obtain ⟨entries, entriesOf⟩ := entries_of_accepted known debug (fun _ member => member) accepted
  rw [Query.applySearch, Query.applyTokens_value, Query.filterByAll,
    Query.filterByFrom_ok debug 0 entriesOf]
  exact ⟨rfl, putOn_of_entries entriesOf⟩

end Known

/-- A search with a text over a map to columns of the table fails for its first refused predicate. The
    predicates before that one are on the query, and all of them where none is refused. -/
theorem applySearch_refusal (debug : Bool) (map : ColumnMap) (q : Query) (raw : Text)
    (known : ∀ key column, Assoc.find? map key = some column →
      ∃ field ∈ q.table.fields, field.name = column) :
    let ps := compile (some raw) map
    let outcome := (q.applySearch debug .tokens map raw).value
    ((∃ fault, outcome.result = .error fault) ↔ ∃ p ∈ ps, ∃ fault, p.RefusedWith fault) ∧
      (∀ before p after fault, ps = before ++ p :: after →
        (∀ b ∈ before, ∀ earlier, ¬ b.RefusedWith earlier) → p.RefusedWith fault →
          outcome.result = .error fault ∧ q.PutOn before outcome.query) ∧
      ((∀ p ∈ ps, ∀ fault, ¬ p.RefusedWith fault) →
        outcome.result = .ok .null ∧ q.PutOn ps outcome.query) := by
  refine ⟨⟨?_, ?_⟩, ?_, applySearch_accepted known debug⟩
  · rintro ⟨fault, failed⟩
    by_contra none
    push Not at none
    have finished := (applySearch_accepted known debug none).1
    rw [failed] at finished
    cases finished
  · intro some
    obtain ⟨before, p, after, cut, accepted, fault, refused⟩ := exists_first some
    have none : ∀ b ∈ before, ∀ earlier, ¬ b.RefusedWith earlier :=
      fun b member earlier refused => accepted b member ⟨earlier, refused⟩
    exact ⟨fault, (applySearch_refused known debug cut none refused).1⟩
  · intro before p after fault cut accepted refused
    exact applySearch_refused known debug cut accepted refused

end Searches

section Superscript

def events : Table := ⟨"events".toList, [⟨"n".toList, .int⟩, ⟨"at".toList, .datetime⟩]⟩

def eventMap : ColumnMap := [("n".toList, "n".toList), ("when".toList, "at".toList)]

def moreThanOne : Predicate :=
  { column := "n".toList, kind := .basic, operands := [.text ['1']], comparator := some ['>'] }

def daySquared : Predicate :=
  { column := "at".toList, kind := .datePart, operands := [.text ['²']], datePart := some .day }

theorem applySearch_refusal_superscript :
    let outcome := ((Query.start events none).applySearch false .tokens eventMap
      "n:>1 when:day,² n:7".toList).value
    outcome.result = .error (.malformedInteger ['²']) ∧
      (Query.start events none).PutOn [moreThanOne] outcome.query := by
  have known : ∀ key column, Assoc.find? eventMap key = some column →
      ∃ field ∈ events.fields, field.name = column := by
    intro key column found
    obtain ⟨pair, first, rfl⟩ := Option.map_eq_some_iff.mp found
    have inMap : pair ∈ eventMap := List.mem_of_find?_eq_some first
    have columns : ∀ pair ∈ eventMap, ∃ field ∈ events.fields, field.name = pair.2 := by decide
    exact columns pair inMap
  have accepted : ∀ b ∈ [moreThanOne], ∀ earlier, ¬ b.RefusedWith earlier := by
    intro b member earlier refused
    rw [List.mem_singleton.mp member] at refused
    exact nomatch (Predicate.refusedWith_basic.mp refused).1
  have superscript : Text.trim ['²'] ≠ [] ∧ (Text.trim ['²']).all isDigit = true := by decide
  have digits : daySquared.HasDigits ['²'] :=
    ⟨rfl, ⟨.day, by decide, rfl⟩, rfl, superscript.1, List.all_eq_true.mp superscript.2⟩
  exact (applySearch_refusal false eventMap (Query.start events none) _ known).2.1
    [moreThanOne] daySquared _ _ (by decide : compile _ eventMap = [moreThanOne] ++ daySquared ::
      [{ column := "n".toList, kind := .basic, operands := [.text ['7']], comparator := some ['='] }])
    accepted (.malformed digits (by decide))

end Superscript

end SearchBox
