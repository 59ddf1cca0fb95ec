import SearchBox.Compile
import SearchBox.Proofs.ShapeChoice
import SearchBox.Proofs.TermGrammar
import SearchBox.Proofs.WrittenForms

/- What search texts are compiled to. Whatever a user writes, each predicate has the operands, the comparator
   and the date part that its kind asks for, so that it can be put into words and onto a query. -/
namespace SearchBox
open Text Shape

/-- Whether a shape has the characters that it was found by, and none that it ends at. -/
def Shape.Delimited : Shape → Prop
  | .set _ items => items ≠ [] ∧ '\n' ∉ items
  | .range low high => '\n' ∉ low ∧ ',' ∉ low ∧ '\n' ∉ high ∧ ']' ∉ high
  | .datePart _ value => '\n' ∉ value
  | .pattern text => ∃ inner, text = '%' :: inner ++ ['%'] ∧ inner ≠ [] ∧ '%' ∉ inner
  | .regexp text => '\n' ∉ text
  | .basic op value => (∀ o, op = some o → o ∈ operators) ∧ '\n' ∉ value

section Delimited
variable {s t : Text} {x : Shape}

theorem setAt?_delimited (reads : setAt? t = some x) : x.Delimited := by
  obtain ⟨negated, items, after, rfl, some, noBreak, _⟩ := setAt?_eq_some.mp reads
  exact ⟨some, noBreak⟩

theorem rangeAt?_delimited (reads : rangeAt? t = some x) : x.Delimited := by
  obtain ⟨low, high, after, rfl, lowNoBreak, noComma, highNoBreak, noBracket, _⟩ :=
    rangeAt?_eq_some.mp reads
  exact ⟨lowNoBreak, noComma, highNoBreak, noBracket⟩

theorem datePartAt?_delimited (reads : datePartAt? t = some x) : x.Delimited := by
  obtain ⟨part, rest, rfl, _⟩ := datePartAt?_eq_some.mp reads
  exact line_noBreak rest

theorem patternAt?_delimited (reads : patternAt? t = some x) : x.Delimited := by
  obtain ⟨inner, after, rfl, some, absent, _⟩ := patternAt?_eq_some.mp reads
  exact ⟨inner, rfl, some, absent⟩

theorem regexpAt?_delimited (reads : regexpAt? t = some x) : x.Delimited := by
  obtain ⟨inner, after, rfl, noBreak, _⟩ := regexpAt?_eq_some.mp reads
  exact noBreak

theorem basicOf_delimited (t : Text) : (basicOf t).Delimited := by
  unfold basicOf
  split
  · rename_i op found
    refine ⟨?_, line_noBreak _⟩
    intro o same
    rw [← Option.some.inj same]
    exact List.mem_of_find?_eq_some found
  · refine ⟨?_, line_noBreak _⟩
    intro o none
    cases none

theorem search_delimited {read : Text → Option Shape}
    (delimited : ∀ {t x}, read t = some x → x.Delimited) (found : search read s = some x) :
    x.Delimited := by
  obtain ⟨tail, _, reads⟩ := read_of_search found
  exact delimited reads

theorem ofCondition_delimited (s : Text) : (ofCondition s).Delimited := by
  unfold ofCondition
  cases set : search setAt? s with
  | some x => exact search_delimited setAt?_delimited set
  | none =>
  cases range : search rangeAt? s with
  | some x => exact search_delimited rangeAt?_delimited range
  | none =>
  cases datePart : search datePartAt? s with
  | some x => exact search_delimited datePartAt?_delimited datePart
  | none =>
  cases pattern : search patternAt? s with
  | some x => exact search_delimited patternAt?_delimited pattern
  | none =>
  cases regexp : search regexpAt? s with
  | some x => exact search_delimited regexpAt?_delimited regexp
  | none => exact basicOf_delimited s

end Delimited

def Operand.OneLine : Operand → Prop
  | .null => True
  | .text t => '\n' ∉ t
  | .int _ | .list _ => False

def comparators : List Text :=
  ["=".toList, "!=".toList, "<".toList, "<=".toList, ">".toList, ">=".toList, "like".toList]

/-- What a search text can ask for, one case for each shape of a condition; the last shape has two. -/
inductive Predicate.Compiled : Predicate → Prop where
  | set (column : Text) (isOr negated : Bool) {items : List Operand} (some : items ≠ [])
      (filled : items ≠ [.text []])
      (fits : ∀ v ∈ items, v.OneLine ∧ ∀ t, v = .text t → ',' ∉ t) :
      Compiled { column, kind := if negated then .notIn else .isIn, operands := items, isOr }
  | between (column : Text) (isOr : Bool) {low high : Text} (lowLine : '\n' ∉ low)
      (lowComma : ',' ∉ low) (highLine : '\n' ∉ high) (highBracket : ']' ∉ high) :
      Compiled { column, kind := .between, operands := [.text low, .text high], isOr }
  | datePart (column : Text) (isOr : Bool) (part : DatePart) {value : Text} (line : '\n' ∉ value) :
      Compiled { column, kind := .datePart, operands := [.text value], isOr, datePart := some part }
  | like (column : Text) (isOr : Bool) {inner : Text} (some : inner ≠ []) (noPercent : '%' ∉ inner) :
      Compiled { column, kind := .like, operands := [.text ('%' :: inner ++ ['%'])], isOr }
  | regexp (column : Text) (isOr : Bool) {value : Operand} (line : value.OneLine) :
      Compiled { column, kind := .regexp, operands := [value], isOr }
  | compare (column : Text) (isOr : Bool) {op : Text} (known : op ∈ comparators)
      (other : op ≠ "like".toList) {value : Operand} (line : value.OneLine) :
      Compiled { column, kind := .basic, operands := [value], isOr, comparator := some op }
  | contains (column : Text) (isOr : Bool) {inner : Text} (line : '\n' ∉ inner) :
      Compiled { column, kind := .basic, operands := [.text ('%' :: inner ++ ['%'])], isOr,
                 comparator := some "like".toList }

section Values
variable {t : Text}

theorem ofItem_oneLine (line : '\n' ∉ t) : (Operand.ofItem t).OneLine := by
  unfold Operand.ofItem
  split
  · trivial
  · exact line

theorem ofItem_eq_text {u : Text} (same : Operand.ofItem t = .text u) : t = u := by
  unfold Operand.ofItem at same
  split at same
  · cases same
  · exact Operand.text.inj same

theorem ofValue_oneLine (line : '\n' ∉ t) : (Operand.ofValue t).OneLine := by
  unfold Operand.ofValue
  split
  · trivial
  · split
    · intro member
      exact line (List.mem_of_mem_drop (List.dropLast_subset _ member))
    · exact line

theorem compiled_set (column : Text) (isOr negated : Bool) {items : Text} (some : items ≠ [])
    (line : '\n' ∉ items) :
    (Shape.predicate ⟨column, t, isOr⟩ (.set negated items)).Compiled := by
  refine .set column isOr negated ?_ ?_ ?_
  · simpa using splitAt_ne_nil ',' items
  · intro single
    obtain ⟨piece, split, same⟩ := List.map_eq_singleton_iff.mp single
    rw [ofItem_eq_text same] at split
    exact some (splitAt_eq_empty split)
  · intro v member
    obtain ⟨piece, inPieces, rfl⟩ := List.mem_map.mp member
    obtain ⟨noComma, chars⟩ := mem_splitAt inPieces
    refine ⟨ofItem_oneLine fun newline => line (chars _ newline), ?_⟩
    intro u same
    rwa [← ofItem_eq_text same]

theorem compiled_basic (column : Text) (isOr : Bool) {op : Option Text} {value : Text}
    (known : ∀ o, op = some o → o ∈ operators) (line : '\n' ∉ value) :
    (Shape.predicate ⟨column, t, isOr⟩ (.basic op value)).Compiled := by
  by_cases percent : op = some ['%']
  · rw [percent]
    simp only [predicate, if_true, List.cons_append, Operand.ofValue_percent]
    exact .contains column isOr line
  · simp only [predicate, percent, if_false]
    have operator : op.getD "=".toList ∈ comparators ∧ op.getD "=".toList ≠ "like".toList := by
      cases op with
      | none => decide
      | some o =>
        have plain : ∀ o ∈ operators, o ≠ ['%'] → o ∈ comparators ∧ o ≠ "like".toList := by decide
        exact plain o (known o rfl) fun same => percent (congrArg some same)
    exact .compare column isOr operator.1 operator.2 (ofValue_oneLine line)

end Values

theorem classify_compiled (t : SearchTerm) : t.classify.Compiled := by
  have delimited := ofCondition_delimited t.condition
  unfold SearchTerm.classify
  cases shape : ofCondition t.condition with
  | set negated items =>
    rw [shape] at delimited
    exact compiled_set t.column t.isOr negated delimited.1 delimited.2
  | range low high =>
    rw [shape] at delimited
    obtain ⟨lowLine, comma, highLine, bracket⟩ := delimited
    exact .between t.column t.isOr lowLine comma highLine bracket
  | datePart part value =>
    rw [shape] at delimited
    exact .datePart t.column t.isOr part delimited
  | pattern text =>
    rw [shape] at delimited
    obtain ⟨inner, rfl, some, noPercent⟩ := delimited
    exact .like t.column t.isOr some noPercent
  | regexp text =>
    rw [shape] at delimited
    exact .regexp t.column t.isOr (ofValue_oneLine delimited)
  | basic op value =>
    rw [shape] at delimited
    exact compiled_basic t.column t.isOr delimited.1 delimited.2

namespace Predicate
variable {p : Predicate}

theorem Compiled.complete (compiled : p.Compiled) : p.Complete := by
  cases compiled with
  | set _ _ negated => cases negated <;> exact ⟨by simp, by simp, by simp⟩
  | between => exact ⟨by simp, fun _ => ⟨_, _, rfl, rfl⟩, by simp⟩
  | datePart => exact ⟨fun _ => ⟨_, rfl⟩, by simp, fun _ => ⟨_, rfl⟩⟩
  | _ => exact ⟨fun _ => ⟨_, rfl⟩, by simp, by simp⟩

theorem Compiled.integers (compiled : p.Compiled) : ∀ v ∈ p.operands, v.integers = [] := by
  have ofLine {v : Operand} (line : v.OneLine) : v.integers = [] := by
    cases v with
    | null | text => rfl
    | int | list => exact absurd line id
  cases compiled with
  | set _ _ _ _ _ fits => exact fun v member => ofLine (fits v member).1
  | regexp _ _ line | compare _ _ _ _ line => simpa using ofLine line
  | _ => simp [Operand.integers]

theorem Compiled.describe_ok (compiled : p.Compiled) : ∃ words, p.describe = .ok words :=
  compiled.complete.describe_ok compiled.integers

/-- What holds of every predicate that a search text over `map` is compiled to. -/
structure WellFormed (map : ColumnMap) (p : Predicate) : Prop where
  column : ∃ key, Assoc.find? map key = some p.column
  kind : p.kind ≠ .ilike
  comparator : p.comparator.isSome = true ↔ p.kind = .basic
  known : ∀ op, p.comparator = some op → op ∈ comparators
  datePart : p.datePart.isSome = true ↔ p.kind = .datePart
  single : p.kind ∈ [Kind.like, .regexp, .datePart, .basic] → p.operands.length = 1
  items : p.kind ∈ [Kind.isIn, .notIn] →
    p.operands ≠ [] ∧ p.operands ≠ [.text []] ∧ ∀ t, .text t ∈ p.operands → ',' ∉ t
  bounds : p.kind = .between →
    ∃ low high, p.operands = [.text low, .text high] ∧ ',' ∉ low ∧ ']' ∉ high
  pattern : p.kind = .like →
    ∃ inner, p.operands = [.text ('%' :: inner ++ ['%'])] ∧ inner ≠ [] ∧ '%' ∉ inner
  contained : p.comparator = some "like".toList →
    ∃ t, p.operands = [.text t] ∧ t.head? = some '%' ∧ t.getLast? = some '%'
  null : .null ∈ p.operands →
    p.kind ∈ [Kind.isIn, .notIn, .regexp] ∨ p.kind = .basic ∧ p.comparator ≠ some "like".toList
  noNumber : ∀ n, .int n ∉ p.operands
  line : p.kind ≠ .like → ∀ t, .text t ∈ p.operands → '\n' ∉ t
  described : ∃ words, p.describe = .ok words

theorem Compiled.wellFormed {map : ColumnMap} (compiled : p.Compiled)
    (column : ∃ key, Assoc.find? map key = some p.column) : p.WellFormed map where
  column := column
  described := compiled.describe_ok
  kind := by
    cases compiled with
    | set _ _ negated => cases negated <;> simp
    | _ => simp
  comparator := by
    cases compiled with
    | set _ _ negated => cases negated <;> simp
    | _ => simp
  known := by
    cases compiled with
    | compare _ _ known => simpa using known
    | contains => simp [comparators]
    | _ => simp
  datePart := by
    cases compiled with
    | set _ _ negated => cases negated <;> simp
    | _ => simp
  single := by
    cases compiled with
    | set _ _ negated => cases negated <;> simp
    | _ => simp
  items := by
    cases compiled with
    | set _ _ _ some filled fits =>
      exact fun _ => ⟨some, filled, fun t member => (fits _ member).2 t rfl⟩
    | _ => simp
  bounds := by
    cases compiled with
    | set _ _ negated => cases negated <;> simp
    | between _ _ _ lowComma _ highBracket => exact fun _ => ⟨_, _, rfl, lowComma, highBracket⟩
    | _ => simp
  pattern := by
    cases compiled with
    | set _ _ negated => cases negated <;> simp
    | like _ _ some noPercent => exact fun _ => ⟨_, rfl, some, noPercent⟩
    | _ => simp
  contained := by
    cases compiled with
    | compare _ _ _ other => exact fun same => absurd (Option.some.inj same) other
    | contains => exact fun _ => ⟨_, rfl, rfl, List.getLast?_concat⟩
    | _ => simp
  null := by
    cases compiled with
    | set _ _ negated => cases negated <;> simp
    | compare _ _ _ other => exact fun _ => Or.inr ⟨rfl, fun same => other (Option.some.inj same)⟩
    | _ => simp
  noNumber := by
    intro n member
    cases compiled with
    | set _ _ _ _ _ fits => exact (fits _ member).1
    | regexp _ _ line | compare _ _ _ _ line =>
      rw [← List.mem_singleton.mp member] at line
      exact line
    | _ => simp at member
  line := by
    intro kind t member
    cases compiled with
    | set _ _ _ _ _ fits => exact (fits _ member).1
    | between _ _ lowLine _ highLine => rcases (by simpa using member) with rfl | rfl <;> assumption
    | like => exact absurd rfl kind
    | regexp _ _ line | compare _ _ _ _ line =>
      rw [← List.mem_singleton.mp member] at line
      exact line
    | datePart _ _ _ line => rwa [Operand.text.inj (List.mem_singleton.mp member)]
    | contains _ _ line =>
      rw [Operand.text.inj (List.mem_singleton.mp member)]
      simp [line]

end Predicate

theorem column_of_parse? {map : ColumnMap} {token : Text} {t : SearchTerm}
    (parsed : SearchTerm.parse? map token = some t) : ∃ key, Assoc.find? map key = some t.column := by
  obtain ⟨key, reads⟩ := SearchTerm.reads_of_parsed parsed
  exact ⟨key, reads.known⟩

theorem compiled_of_mem_compile {raw : Option Text} {map : ColumnMap} {p : Predicate}
    (member : p ∈ compile raw map) :
    p.Compiled ∧ ∃ key, Assoc.find? map key = some p.column := by
  obtain ⟨t, inTerms, rfl⟩ := List.mem_map.mp member
  obtain ⟨token, _, parsed⟩ := List.mem_filterMap.mp inTerms
  refine ⟨classify_compiled t, ?_⟩
  rw [t.classify_column]
  exact column_of_parse? parsed

theorem describe_of_mem_compile {raw : Option Text} {map : ColumnMap} :
    ∀ p ∈ compile raw map, ∃ words, p.describe = .ok words :=
  fun _ member => (compiled_of_mem_compile member).1.describe_ok

/-- Compiling with every predicate put into words as soon as it is there, which is all that could fail. -/
def compileDescribed (raw : Option Text) (map : ColumnMap) : Except Fault (List Predicate) :=
  (SearchTerm.parseAll map (Token.tokenize (raw.getD []))).mapM fun t => do
    let _ ← t.classify.describe
    return t.classify

theorem mapM_described (ts : List SearchTerm) :
    (ts.mapM fun t => do
      let _ ← t.classify.describe
      return t.classify : Except Fault (List Predicate)) = .ok (ts.map SearchTerm.classify) := by
  induction ts with
  | nil => rfl
  | cons t rest ih =>
    obtain ⟨words, described⟩ := (classify_compiled t).describe_ok
    rw [List.mapM_cons, ih, described]
    rfl

/-- No search text fails to compile. There is one predicate for a token at most, and each is well formed. -/
theorem compile_wellFormed (raw : Option Text) (map : ColumnMap) :
    compileDescribed raw map = .ok (compile raw map) ∧
      (compile raw map).length ≤ (Token.tokenize (raw.getD [])).length ∧
      ∀ p ∈ compile raw map, p.WellFormed map := by
  refine ⟨mapM_described _, ?_, ?_⟩
  · rw [compile, List.length_map]
    exact List.length_filterMap_le _ _
  · intro p member
    obtain ⟨compiled, column⟩ := compiled_of_mem_compile member
    exact compiled.wellFormed column

theorem compile_wellFormed_quote :
    let map : ColumnMap := [("who".toList, "name".toList)]
    let p : Predicate :=
      { column := "name".toList, kind := .basic, operands := [.text ['%', '"', '%']],
        comparator := some "like".toList }
    p ∈ compile (some "who:%\"".toList) map ∧ p.WellFormed map := by
  intro map p
  have compiled : p ∈ compile (some "who:%\"".toList) map := by decide
  exact ⟨compiled, (compile_wellFormed _ map).2.2 p compiled⟩

end SearchBox
