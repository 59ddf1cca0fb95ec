import SearchBox.Proofs.FilterRuns
import SearchBox.Proofs.Numerals
import SearchBox.Proofs.SearchRefusal

/- What the operations of a query are refused for. An operation goes through its checks one after the other,
   and the first that fails gives the refusal. Digits that make up no number are one of the reasons. -/
namespace SearchBox

/-- A check, told by the refusals it gives; where it gives none, it passes. -/
abbrev Check := Fault → Prop

inductive FirstRefusal : List Check → Fault → Prop where
  | here {check : Check} {rest : List Check} {fault : Fault} (refuses : check fault) :
    FirstRefusal (check :: rest) fault
  | later {check : Check} {rest : List Check} {fault : Fault} (passes : ∀ other, ¬ check other)
      (others : FirstRefusal rest fault) : FirstRefusal (check :: rest) fault

section Checks
variable {checks more : List Check} {fault : Fault}

theorem not_firstRefusal_nil : ¬ FirstRefusal [] fault := nofun

theorem firstRefusal_cons {check : Check} {rest : List Check} :
    FirstRefusal (check :: rest) fault ↔
      check fault ∨ (∀ other, ¬ check other) ∧ FirstRefusal rest fault := by
  constructor
  · intro first
    cases first with
    | here refuses => exact Or.inl refuses
    | later passes others => exact Or.inr ⟨passes, others⟩
  · rintro (refuses | ⟨passes, others⟩)
    · exact .here refuses
    · exact .later passes others

theorem firstRefusal_append :
    FirstRefusal (checks ++ more) fault ↔
      FirstRefusal checks fault ∨ (∀ other, ¬ FirstRefusal checks other) ∧ FirstRefusal more fault := by
  induction checks with
  | nil => simp [not_firstRefusal_nil]
  | cons check rest ih =>
    simp only [List.cons_append, firstRefusal_cons, ih]
    -- the first check decides both sides, or leaves both of them to the rest
    by_cases passes : ∀ other, ¬ check other
    · simp [passes]
    · push Not at passes
      obtain ⟨other, refuses⟩ := passes
      constructor
      · rintro (here | ⟨none, _⟩)
        · exact Or.inl (Or.inl here)
        · exact absurd refuses (none other)
      · rintro ((here | ⟨none, _⟩) | ⟨none, _⟩)
        · exact Or.inl here
        · exact absurd refuses (none other)
        · exact absurd (Or.inl refuses) (none other)

theorem exists_firstRefusal :
    (∃ fault, FirstRefusal checks fault) ↔ ∃ check ∈ checks, ∃ fault, check fault := by
  induction checks with
  | nil => simp [not_firstRefusal_nil]
  | cons check rest ih =>
    simp only [firstRefusal_cons, List.mem_cons, exists_eq_or_imp, ← ih]
    constructor
    · rintro ⟨fault, refuses | ⟨_, others⟩⟩
      · exact Or.inl ⟨fault, refuses⟩
      · exact Or.inr ⟨fault, others⟩
    · by_cases refuses : ∃ fault, check fault
      · obtain ⟨fault, refuses⟩ := refuses
        exact fun _ => ⟨fault, Or.inl refuses⟩
      · rintro (here | ⟨fault, others⟩)
        · exact absurd here refuses
        · exact ⟨fault, Or.inr ⟨not_exists.mp refuses, others⟩⟩

/-- Whether work is refused as the first failing check says, and goes through where all of them pass. -/
def CheckedBy {α : Type} (x : Except Fault α) (checks : List Check) : Prop :=
  ∀ fault, x = .error fault ↔ FirstRefusal checks fault

namespace CheckedBy
variable {α β : Type} {x : Except Fault α}

theorem one {check : Check} (same : ∀ fault, x = .error fault ↔ check fault) : CheckedBy x [check] := by
  intro fault
  rw [same, firstRefusal_cons]
  simp [not_firstRefusal_nil]

theorem done (a : α) : CheckedBy (.ok a) [] := fun _ => ⟨nofun, nofun⟩

theorem bind {f : α → Except Fault β} (first : CheckedBy x checks)
    (next : ∀ a, x = .ok a → CheckedBy (f a) more) : CheckedBy (x.bind f) (checks ++ more) := by
  intro fault
  rw [firstRefusal_append, ← first fault]
  cases x with
  | error other =>
    have refused := (first other).mp rfl
    have same : (Except.error other : Except Fault β) = .error fault ↔
        (Except.error other : Except Fault α) = .error fault := by simp
    refine same.trans ⟨Or.inl, ?_⟩
    rintro (here | ⟨none, _⟩)
    · exact here
    · exact absurd refused (none other)
  | ok a =>
    have passes : ∀ other, ¬ FirstRefusal checks other := fun other refused =>
      nomatch (first other).mpr refused
    simp [passes, ← next a rfl fault, Except.bind]

end CheckedBy
end Checks

def operatorNames : List Text :=
  ["=".toList, "!=".toList, "<>".toList, ">".toList, ">=".toList, "<".toList, "<=".toList,
    "like".toList, "ilike".toList, "regexp".toList]

def strictNames : List Text :=
  [">".toList, ">=".toList, "<".toList, "<=".toList, "like".toList, "ilike".toList]

section Conditions
variable (q : Query)

def operatorCheck (operator : Option Text) : Check := fun fault =>
  (operator.getD []).lower ∉ operatorNames ∧ fault = .unsupportedOperator (operator.elim .null .text)

def columnCheck (column : Text) : Check := fun fault =>
  (∀ field ∈ q.table.fields, field.name ≠ column) ∧ fault = .unknownColumn (.text column)

def nullCheck (operator : Option Text) (value : Operand) : Check := fun fault =>
  value = .null ∧ (operator.getD []).lower ∈ strictNames ∧ fault = .nullOperand

def connectiveCheck (word : Text) : Check := fun fault =>
  word.lower ≠ "and".toList ∧ word.lower ≠ "or".toList ∧ fault = .unknownConnective word.lower

def boundsCheck (bounds : List Operand) : Check := fun fault =>
  bounds.length < 2 ∧ fault = .tooFewBounds bounds.length ∨ 2 < bounds.length ∧ fault = .tooManyBounds

def partCheck (name : Text) : Check := fun fault =>
  name ∉ ["date".toList, "time".toList, "day".toList, "month".toList, "year".toList] ∧
    fault = .unknownPart (.text name)

def numberCheck (name : Text) (value : Operand) : Check := fun fault =>
  name ∈ ["day".toList, "month".toList, "year".toList] ∧
    ∃ v, value = .text v ∧ MadeOfDigits v ∧ Integer.ofText v = .error fault

end Conditions

namespace Operator

theorem ofName?_eq_none {name : Text} : ofName? name = none ↔ name ∉ operatorNames := by
  simp [ofName?, Assoc.find?, operatorNames, @eq_comm _ name]

theorem takesNull_iff {name : Text} {op : Operator} (known : ofName? name = some op) :
    op.takesNull = false ↔ name ∈ strictNames := by
  obtain ⟨pair, found, rfl⟩ := Option.map_eq_some_iff.mp known
  have named : pair.1 = name := by simpa using List.find?_some found
  have member := List.mem_of_find?_eq_some found
  subst named
  -- a look at every row of the table
  revert pair
  decide

def named (operator : Option Text) : Except Fault Operator :=
  match ofName? (operator.getD []).lower with
  | some op => .ok op
  | none => .error (.unsupportedOperator (operator.elim .null .text))

theorem named_ok {operator : Option Text} {op : Operator} (found : named operator = .ok op) :
    ofName? (operator.getD []).lower = some op := by
  unfold named at found
  split at found
  · rename_i known
    cases found
    exact known
  · cases found

end Operator

theorem compareClause_eq (q : Query) (column value : Operand) (operator : Option Text) :
    q.compareClause column (operator.elim .null .text) value =
      (Operator.named operator).bind fun op => (q.table.fieldOf column).bind fun field =>
        op.clause field value := by
  have word : (operator.elim Operand.null .text).operatorName = .ok (operator.getD []) := by
    cases operator with
    | none => rfl
    | some name => exact Operand.operatorName_text name
  rw [Query.compareClause, word, Operator.named]
  dsimp only [bind, Except.bind]
  cases Operator.ofName? (operator.getD []).lower <;> rfl

namespace CheckedBy

theorem error_iff {α : Type} {condition : Prop} {given fault : Fault} (holds : condition) :
    (Except.error given : Except Fault α) = .error fault ↔ condition ∧ fault = given := by
  simp [holds, eq_comm]

theorem ok_iff {α : Type} {condition : Prop} {a : α} {fault : Fault} (fails : ¬ condition) :
    (Except.ok a : Except Fault α) = .error fault ↔ condition :=
  iff_of_false nofun fails

theorem operator (given : Option Text) : CheckedBy (Operator.named given) [operatorCheck given] := by
  refine .one fun fault => ?_
  unfold Operator.named operatorCheck
  cases known : Operator.ofName? (given.getD []).lower with
  | none => exact error_iff (Operator.ofName?_eq_none.mp known)
  | some op =>
    refine ok_iff fun refused => ?_
    rw [Operator.ofName?_eq_none.mpr refused.1] at known
    cases known

theorem column (q : Query) (name : Text) :
    CheckedBy (q.table.fieldOf (.text name)) [columnCheck q name] := by
  refine .one fun fault => ?_
  rw [Table.fieldOf_text, Table.field, columnCheck]
  cases found : q.table.fields.find? (·.name = name) with
  | none =>
    have absent : ∀ field ∈ q.table.fields, field.name ≠ name := by
      simpa using List.find?_eq_none.mp found
    exact error_iff absent
  | some field =>
    have member := List.mem_of_find?_eq_some found
    have same : field.name = name := by simpa using List.find?_some found
    exact ok_iff fun refused => refused.1 field member same

theorem null {given : Option Text} {op : Operator} (known : Operator.named given = .ok op) (field : Field)
    (value : Operand) : CheckedBy (op.clause field value) [nullCheck given value] := by
  refine .one fun fault => ?_
  rw [Operator.clause_error, Operator.takesNull_iff (Operator.named_ok known), nullCheck]

theorem connective (word : Text) : CheckedBy (Operand.joint (.text word)) [connectiveCheck word] := by
  refine .one fun fault => ?_
  change Connective.ofWord word = .error fault ↔ _
  unfold Connective.ofWord connectiveCheck
  split
  · rename_i isAnd
    exact ok_iff fun refused => refused.1 isAnd
  · rename_i notAnd
    split
    · rename_i isOr
      exact ok_iff fun refused => refused.2.1 isOr
    · rename_i notOr
      rw [← and_assoc]
      exact error_iff ⟨notAnd, notOr⟩

theorem bounds (given : List Operand) : CheckedBy (Operand.pair (.list given)) [boundsCheck given] := by
  refine .one fun fault => ?_
  match given with
  | [] => simp [Operand.pair, Operand.items, boundsCheck, eq_comm]
  | [_] => simp [Operand.pair, Operand.items, boundsCheck, eq_comm]
  | [_, _] => simp [Operand.pair, Operand.items, boundsCheck]
  | _ :: _ :: _ :: rest =>
    have many : ¬ rest.length + 1 + 1 + 1 < 2 := by omega
    simp [Operand.pair, Operand.items, boundsCheck, many, eq_comm]

theorem part (name : Text) : CheckedBy (DatePart.ofOperand (.text name)) [partCheck name] := by
  refine .one fun fault => ?_
  have names : DatePart.ofName? name = none ↔
      name ∉ ["date".toList, "time".toList, "day".toList, "month".toList, "year".toList] := by
    change _ ↔ name ∉ DatePart.all.map DatePart.name
    simp [DatePart.ofName?]
  rw [DatePart.ofOperand, partCheck, ← names]
  cases DatePart.ofName? name with
  | none => exact error_iff rfl
  | some part => exact ok_iff (by simp)

theorem number (part : DatePart) (value : Operand) :
    CheckedBy (Query.partValue part value) [numberCheck part.name value] := by
  refine .one fun fault => ?_
  have numeric : part.isNumeric = true ↔ part.name ∈ ["day".toList, "month".toList, "year".toList] := by
    cases part <;> decide
  rw [numberCheck, ← numeric]
  cases value with
  | text v =>
    rw [Query.partValue_error]
    simp [MadeOfDigits, and_assoc]
  | null | int | list => exact ok_iff (by simp)

theorem compareClause (q : Query) (name : Text) (given : Option Text) (value : Operand) :
    CheckedBy (q.compareClause (.text name) (given.elim .null .text) value)
      [operatorCheck given, columnCheck q name, nullCheck given value] := by
  rw [compareClause_eq]
  exact (operator given).bind fun op known => (column q name).bind fun field _ => null known field value

theorem memberClause (q : Query) (name : Text) (values : List Operand) (negated : Bool) :
    CheckedBy (q.memberClause (.text name) (.list values) negated) [columnCheck q name] :=
  (column q name).bind fun field _ => done (Clause.member field negated values)

theorem betweenClause (q : Query) (name : Text) (given : List Operand) :
    CheckedBy (q.betweenClause (.text name) (.list given)) [boundsCheck given, columnCheck q name] :=
  (bounds given).bind fun pair _ => (column q name).bind fun field _ =>
    done (Clause.between field pair.1 pair.2)

theorem partClause (q : Query) (name given : Text) (value : Operand) :
    CheckedBy (q.partClause (.text given) (.text name) value)
      [partCheck given, numberCheck given value, columnCheck q name] := by
  refine (part given).bind fun known named => ?_
  rw [← DatePart.ofOperand_ok.mp named]
  exact (number known value).bind fun v _ => (column q name).bind fun field _ =>
    done (Clause.part field known (q.partForm known) v)

end CheckedBy

namespace Query

/-- What the checks of an operation decide: with which fault it is refused, the query staying as it is,
    whether it is refused at all, and that it puts one filter on if not. -/
structure Judged (q : Query) (m : FilterMethod) (checks : List Check) : Prop where
  refusal : ∀ fault, q.step m = (q, some fault) ↔ FirstRefusal checks fault
  refused : (q.step m).2 ≠ none ↔ ∃ check ∈ checks, ∃ fault, check fault
  accepted : (∀ check ∈ checks, ∀ fault, ¬ check fault) → ∃ e, q.step m = (q.append e, none)

theorem judged_of_checkedBy {q : Query} {m : FilterMethod} {checks : List Check}
    (checked : CheckedBy (m.entryOn q) checks) : q.Judged m checks := by
  have refusal : ∀ fault, q.step m = (q, some fault) ↔ FirstRefusal checks fault := by
    intro fault
    rw [← checked fault, step_eq]
    cases m.entryOn q <;> simp
  refine ⟨refusal, ?_, ?_⟩
  · rw [← exists_firstRefusal]
    simp only [← checked _, step_eq]
    cases m.entryOn q <;> simp
  · intro passes
    rw [step_eq]
    cases entry : m.entryOn q with
    | ok e => exact ⟨e, rfl⟩
    | error fault =>
      obtain ⟨check, member, other, refuses⟩ := exists_firstRefusal.mp ⟨fault, (checked fault).mp entry⟩
      exact absurd refuses (passes check member other)

theorem judged_of_clause (q : Query) (m : FilterMethod) {checks : List Check} {word : Text}
    (clause : CheckedBy (m.clause q) checks) (connective : m.connective = .text word) :
    q.Judged m (checks ++ [connectiveCheck word]) := by
  refine judged_of_checkedBy (clause.bind fun made _ => ?_)
  rw [connective]
  exact (CheckedBy.connective word).bind fun c _ => CheckedBy.done _

/-- What each of the four families of operations checks, in this order: comparisons the operator, the column,
    a null and the connective; lists the column and the connective; ranges the number of bounds before these
    two, and parts of a moment the name of the part and then digits that it is compared with. -/
theorem step_checks (q : Query) (column word : Text) :
    (∀ operator value,
      q.Judged (.compare (.text column) (operator.elim .null .text) value (.text word))
        [operatorCheck operator, columnCheck q column, nullCheck operator value, connectiveCheck word]) ∧
    (∀ values negated, q.Judged (.isIn (.text column) (.list values) (.text word) negated)
      [columnCheck q column, connectiveCheck word]) ∧
    (∀ bounds, q.Judged (.between (.text column) (.list bounds) (.text word))
      [boundsCheck bounds, columnCheck q column, connectiveCheck word]) ∧
    ∀ part value, q.Judged (.datePart (.text part) (.text column) value (.text word))
      [partCheck part, numberCheck part value, columnCheck q column, connectiveCheck word] := by
  refine ⟨?_, ?_, ?_, ?_⟩
  · intro operator value
    exact judged_of_clause q (.compare ..) (CheckedBy.compareClause q column operator value) rfl
  · intro values negated
    exact judged_of_clause q (.isIn ..) (CheckedBy.memberClause q column values negated.holds) rfl
  · intro bounds
    exact judged_of_clause q (.between ..) (CheckedBy.betweenClause q column bounds) rfl
  · intro part value
    exact judged_of_clause q (.datePart ..) (CheckedBy.partClause q column part value) rfl

section Digits
variable {q : Query} {part : DatePart} {column word : Text} {field : Field} {c : Connective}

theorem step_datePart (found : q.table.field column = .ok field) (known : Connective.ofWord word = .ok c)
    (part : DatePart) (value : Operand) :
    q.step (.datePart (.text part.name) (.text column) value (.text word)) =
      match partValue part value with
      | .ok v => (q.append ⟨c, .part field part (q.partForm part) v⟩, none)
      | .error fault => (q, some fault) := by
  have clause : (FilterMethod.datePart (.text part.name) (.text column) value (.text word)).clause q =
      (partValue part value).map (.part field part (q.partForm part)) := partClause_of_known found part value
  have joint : (FilterMethod.datePart (.text part.name) (.text column) value (.text word)).connective.joint =
      .ok c := known
  rw [step_eq, FilterMethod.entryOn, clause, joint]
  cases partValue part value <;> rfl

theorem partValue_of_digits (numeric : part.isNumeric = true) {v : Text} (digits : MadeOfDigits v) :
    partValue part (.text v) = (Integer.ofText v).map .int := by
  have all : v.trim.all isDigit = true := List.all_eq_true.mpr digits.2
  exact if_pos ⟨numeric, digits.1, all⟩

theorem partValue_of_others {v : Text} (others : ¬ MadeOfDigits v) :
    partValue part (.text v) = .ok (.text v) :=
  if_neg fun digits => others ⟨digits.2.1, List.all_eq_true.mp digits.2.2⟩

/-- A numeric part of a moment, compared with a text. Digits that can be read are compared as the number that
    they denote, and any other text as it stands; digits that cannot be read are refused. -/
theorem step_digits (numeric : part.isNumeric = true) (found : q.table.field column = .ok field)
    (known : Connective.ofWord word = .ok c) (v : Text) :
    let asked := FilterMethod.datePart (.text part.name) (.text column) (.text v) (.text word)
    (MadeOfDigits v → Integer.Readable v → ∃ n : Nat, Denotes v.trim n ∧
        q.step asked = (q.append ⟨c, .part field part .number (.int n)⟩, none)) ∧
      (MadeOfDigits v → ¬ Integer.Readable v → ∃ fault, q.step asked = (q, some fault) ∧
        (fault = .malformedInteger v ∨
          ∃ count, Integer.digitLimit < count ∧ fault = .integerTooLong count)) ∧
      (¬ MadeOfDigits v → q.step asked = (q.append ⟨c, .part field part .number (.text v)⟩, none)) := by
  intro asked
  have form : q.partForm part = .number := if_pos numeric
  have step := step_datePart found known part (.text v)
  rw [form] at step
  refine ⟨?_, ?_, ?_⟩
  · intro digits readable
    obtain ⟨n, value⟩ : ∃ n, Denotes v.trim n := ⟨_, (denotes_iff readable.decimal).mpr rfl⟩
    have read := (Integer.read_ok_iff digits n).mpr ⟨readable, n, value, rfl⟩
    refine ⟨n, value, ?_⟩
    rw [step, partValue_of_digits numeric digits, Integer.ofText, read]
    rfl
  · intro digits unreadable
    rw [partValue_of_digits numeric digits, Integer.ofText] at step
    rcases Integer.read_error digits unreadable with malformed | ⟨count, long, tooLong⟩
    · rw [malformed] at step
      exact ⟨_, step, Or.inl rfl⟩
    · rw [tooLong] at step
      exact ⟨_, step, Or.inr ⟨count, long, rfl⟩⟩
  · intro others
    rw [step, partValue_of_others others]

theorem step_digits_arabic :
    let q := start events none
    let v : Text := ['\u2003', '٠', '٥', '\n']
    DatePart.day.isNumeric = true ∧ q.table.field "at".toList = .ok ⟨"at".toList, .datetime⟩ ∧
      Connective.ofWord "OR".toList = .ok .or ∧ MadeOfDigits v ∧ Integer.Readable v ∧
      q.step (.datePart (.text DatePart.day.name) (.text "at".toList) (.text v) (.text "OR".toList)) =
        (q.append ⟨.or, .part ⟨"at".toList, .datetime⟩ .day .number (.int 5)⟩, none) := by
  intro q v
  have numeric : DatePart.day.isNumeric = true := rfl
  have found : q.table.field "at".toList = .ok ⟨"at".toList, .datetime⟩ := by decide
  have known : Connective.ofWord "OR".toList = .ok .or := by decide
  have digits : MadeOfDigits v := by decide
  have readable : Integer.Readable v := by decide
  obtain ⟨n, value, added⟩ := (step_digits numeric found known v).1 digits readable
  have five : n = 5 := (denotes_iff readable.decimal).mp value
  subst five
  exact ⟨numeric, found, known, digits, readable, added⟩

theorem superscript_refused :
    ¬ ∀ (q : Query) (part : DatePart) (column v : Text) (field : Field), part.isNumeric = true →
      q.table.field column = .ok field → MadeOfDigits v →
        ∃ n : Int, q.step (.datePart (.text part.name) (.text column) (.text v) (.text "and".toList)) =
          (q.append ⟨.and, .part field part .number (.int n)⟩, none) := by
  intro all
  obtain ⟨n, added⟩ := all (start events none) .day "at".toList ['²'] ⟨"at".toList, .datetime⟩ rfl
    (by decide) (by decide)
  have refused : ((start events none).step (.datePart (.text DatePart.day.name) (.text "at".toList)
      (.text ['²']) (.text "and".toList))).2 = some (.malformedInteger ['²']) := by decide
  rw [added] at refused
  cases refused

end Digits

end Query
end SearchBox
