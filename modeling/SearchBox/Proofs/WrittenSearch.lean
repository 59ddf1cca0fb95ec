import Mathlib.Data.List.Forall2
import SearchBox.Compile
import SearchBox.Proofs.ShapeChoice
import SearchBox.Proofs.TermGrammar
import SearchBox.Proofs.TokenLayout

/- Searches written from predicates. Every kind of predicate has a written form, and a text of written forms
   is compiled back to the predicates it was written from. A later shape may be written only where no
   earlier one shows up in its text, since that one would be taken first. -/
namespace SearchBox
open Text Shape

/-- A text that is part of one token and holds no quote. -/
def Plain (t : Text) : Prop := ∀ c ∈ t, isBlank c = false ∧ c ≠ '"'

instance (t : Text) : Decidable (Plain t) :=
  List.decidableBAll (fun c => isBlank c = false ∧ c ≠ '"') t

/-- A value as it is written where null has a word of its own. -/
inductive WrittenValue : Operand → Text → Prop where
  | null : WrittenValue .null nullWord
  | text {t : Text} (plain : Plain t) (other : t ≠ nullWord) : WrittenValue (.text t) t

def WrittenItem (value : Operand) (t : Text) : Prop := WrittenValue value t ∧ ',' ∉ t

/-- Operators that a comparison may be written with; without one, equality is meant. -/
def comparisons : List Text := ["".toList, ">=".toList, ">".toList, "<=".toList, "<".toList, "!=".toList]

/-- `Written p condition`: the predicate `p` is asked for by `condition`. -/
inductive Written : Predicate → Text → Prop where
  | set (column : Text) (isOr negated : Bool) {values : List Operand} {texts : List Text}
      (some : values ≠ []) (filled : values ≠ [.text []])
      (items : List.Forall₂ WrittenItem values texts) :
      Written { column, kind := if negated then .notIn else .isIn, operands := values, isOr }
        ((if negated then ['!'] else []) ++ '(' :: (join [','] texts ++ [')']))
  | between (column : Text) (isOr : Bool) {low high : Text} (lowPlain : Plain low)
      (highPlain : Plain high) (lowOpen : '(' ∉ low) (highOpen : '(' ∉ high) (lowComma : ',' ∉ low)
      (highClose : ']' ∉ high) :
      Written { column, kind := .between, operands := [.text low, .text high], isOr }
        ('[' :: (low ++ ',' :: (high ++ [']'])))
  | datePart (column : Text) (isOr : Bool) (part : DatePart) {value : Text} (plain : Plain value)
      (noParenthesis : '(' ∉ value) (noBracket : '[' ∉ value) :
      Written { column, kind := .datePart, operands := [.text value], isOr, datePart := some part }
        (part.name ++ ',' :: value)
  | like (column : Text) (isOr : Bool) {inner : Text} (some : inner ≠ []) (plain : Plain inner)
      (noPercent : '%' ∉ inner) (noSet : ¬ HasSet inner) (noRange : ¬ HasRange inner)
      (noDatePart : ¬ HasDatePart inner) :
      Written { column, kind := .like, operands := [.text ('%' :: (inner ++ ['%']))], isOr }
        ('%' :: (inner ++ ['%']))
  | regexp (column : Text) (isOr : Bool) {value : Operand} {t : Text}
      (written : WrittenValue value t) (noSet : ¬ HasSet t) (noRange : ¬ HasRange t)
      (noDatePart : ¬ HasDatePart t) (noPattern : ¬ HasPattern t) :
      Written { column, kind := .regexp, operands := [value], isOr } ('/' :: (t ++ ['/']))
  /-- No longer operator than the one that is meant may come about at the start. -/
  | compare (column : Text) (isOr : Bool) {op : Text} (known : op ∈ comparisons) {value : Operand}
      {t : Text} (written : WrittenValue value t)
      (longest : ∀ other ∈ operators, op.length < other.length → ¬ other <+: op ++ t)
      (noSet : ¬ HasSet t) (noRange : ¬ HasRange t) (noDatePart : ¬ HasDatePart t)
      (noPattern : ¬ HasPattern t) (noRegexp : ¬ HasRegexp t) :
      Written { column, kind := .basic, operands := [value], isOr,
                comparator := some (if op = [] then ['='] else op) } (op ++ t)
  | contains (column : Text) (isOr : Bool) {inner : Text} (plain : Plain inner)
      (noSet : ¬ HasSet inner) (noRange : ¬ HasRange inner) (noDatePart : ¬ HasDatePart inner)
      (noPattern : ¬ HasPattern ('%' :: inner)) (noRegexp : ¬ HasRegexp inner) :
      Written { column, kind := .basic, operands := [.text ('%' :: (inner ++ ['%']))], isOr,
                comparator := some "like".toList } ('%' :: inner)

/-- `WrittenToken map p token`: the token asks for the predicate `p`, by a key that `map` has for its
    column. -/
def WrittenToken (map : ColumnMap) (p : Predicate) (token : Text) : Prop :=
  ∃ key condition, key ≠ [] ∧ Plain key ∧ ':' ∉ key ∧ key.head? ≠ some '|' ∧
    Assoc.find? map key = some p.column ∧ Written p condition ∧
    token = SearchTerm.headOf key p.isOr ++ ':' :: condition

section Plain
variable {t u : Text}

theorem plain_append : Plain (t ++ u) ↔ Plain t ∧ Plain u := by
  simp only [Plain, List.forall_mem_append]

theorem plain_cons {c : Char} : Plain (c :: t) ↔ (isBlank c = false ∧ c ≠ '"') ∧ Plain t := by
  simp only [Plain, List.forall_mem_cons]

theorem plain_noBreak (plain : Plain t) : '\n' ∉ t := by
  intro member
  exact absurd (plain '\n' member).1 (by decide)

theorem plain_quoteCount (plain : Plain t) : Token.quoteCount t = 0 := by
  rw [Token.quoteCount, List.count_eq_zero]
  intro member
  exact (plain '"' member).2 rfl

theorem plain_solid (plain : Plain t) : Token.Solid t [] :=
  Token.solid_of_no_blank (fun c member => (plain c member).1) []

theorem plain_startsDark (plain : Plain t) : StartsDark t := by
  intro c head
  exact (plain c (List.mem_of_head? head)).1

theorem plain_join {ts : List Text} {sep : Text} (sepPlain : Plain sep) (plain : ∀ t ∈ ts, Plain t) :
    Plain (join sep ts) := by
  intro c member
  rcases mem_join member with inSep | ⟨t, ht, hc⟩
  · exact sepPlain c inSep
  · exact plain t ht c hc

end Plain

section Values
variable {value : Operand} {t : Text}

theorem writtenValue_plain (written : WrittenValue value t) : Plain t := by
  cases written with
  | null => decide
  | text plain other => exact plain

theorem ofItem_written (written : WrittenValue value t) : Operand.ofItem t = value := by
  cases written with
  | null => rfl
  | text plain other => rw [Operand.ofItem, if_neg other]

theorem ofValue_unquoted (notNull : t ≠ nullWord) (bare : t.head? ≠ some '"') :
    Operand.ofValue t = .text t := by
  rw [Operand.ofValue, if_neg notNull, if_neg fun quoted => bare quoted.1]

theorem ofValue_written (written : WrittenValue value t) : Operand.ofValue t = value := by
  cases written with
  | null => rfl
  | text plain other =>
    refine ofValue_unquoted other ?_
    intro head
    exact (plain '"' (List.mem_of_head? head)).2 rfl

theorem items_ofItem {values : List Operand} {texts : List Text}
    (items : List.Forall₂ WrittenItem values texts) : texts.map Operand.ofItem = values := by
  induction items with
  | nil => rfl
  | cons item _ ih => rw [List.map_cons, ofItem_written item.1, ih]

theorem items_forall {values : List Operand} {texts : List Text}
    (items : List.Forall₂ WrittenItem values texts) : ∀ t ∈ texts, Plain t ∧ ',' ∉ t := by
  induction items with
  | nil => exact List.forall_mem_nil _
  | cons item _ ih =>
    exact List.forall_mem_cons.mpr ⟨⟨writtenValue_plain item.1, item.2⟩, ih⟩

theorem items_join_ne_nil {values : List Operand} {texts : List Text} (some : values ≠ [])
    (filled : values ≠ [.text []]) (items : List.Forall₂ WrittenItem values texts) :
    join [','] texts ≠ [] := by
  cases items with
  | nil => exact absurd rfl some
  | @cons value t values texts item rest =>
    cases rest with
    | nil =>
      intro empty
      change t = [] at empty
      subst empty
      have := ofItem_written item.1
      exact filled (by rw [← this]; rfl)
    | cons second more => simp [join_cons_cons]

end Values

theorem written_plain {p : Predicate} {condition : Text} (written : Written p condition) :
    Plain condition := by
  cases written with
  | set column isOr negated some filled items =>
    have comma : Plain [','] := by decide
    have inner := plain_join comma fun t member => (items_forall items t member).1
    have bang : Plain (if negated then ['!'] else []) := by cases negated <;> decide
    exact plain_append.mpr ⟨bang, plain_cons.mpr ⟨by decide, plain_append.mpr ⟨inner, by decide⟩⟩⟩
  | between column isOr lowPlain highPlain =>
    exact plain_cons.mpr ⟨by decide, plain_append.mpr ⟨lowPlain,
      plain_cons.mpr ⟨by decide, plain_append.mpr ⟨highPlain, by decide⟩⟩⟩⟩
  | datePart column isOr part plain =>
    have name : Plain part.name := by cases part <;> decide
    exact plain_append.mpr ⟨name, plain_cons.mpr ⟨by decide, plain⟩⟩
  | like column isOr some plain =>
    exact plain_cons.mpr ⟨by decide, plain_append.mpr ⟨plain, by decide⟩⟩
  | regexp column isOr value =>
    exact plain_cons.mpr ⟨by decide, plain_append.mpr ⟨writtenValue_plain value, by decide⟩⟩
  | compare column isOr known value =>
    have operator : ∀ op ∈ comparisons, Plain op := by decide
    exact plain_append.mpr ⟨operator _ known, writtenValue_plain value⟩
  | contains column isOr plain => exact plain_cons.mpr ⟨by decide, plain⟩

section Shapes

theorem ofCondition_written_set {negated : Bool} {items : Text} (some : items ≠ [])
    (noBreak : '\n' ∉ items) :
    ofCondition ((if negated then ['!'] else []) ++ '(' :: (items ++ [')'])) = .set negated items := by
  refine ofCondition_of_set (search_of_read ?_)
  exact setAt?_eq_some.mpr ⟨negated, items, [], rfl, some, noBreak, by simp [line], rfl⟩

theorem ofCondition_written_range {low high : Text} (lowNoBreak : '\n' ∉ low)
    (highNoBreak : '\n' ∉ high) (lowOpen : '(' ∉ low) (highOpen : '(' ∉ high) (lowComma : ',' ∉ low)
    (highClose : ']' ∉ high) :
    ofCondition ('[' :: (low ++ ',' :: (high ++ [']']))) = .range low high := by
  have noSet : ¬ HasSet ('[' :: (low ++ ',' :: (high ++ [']']))) :=
    not_encloses_of_absent (by simp [lowOpen, highOpen])
  refine ofCondition_of_range noSet (search_of_read ?_)
  exact rangeAt?_eq_some.mpr
    ⟨low, high, [], rfl, lowNoBreak, lowComma, highNoBreak, highClose, rfl⟩

theorem ofCondition_written_datePart (part : DatePart) {value : Text} (noBreak : '\n' ∉ value)
    (noParenthesis : '(' ∉ value) (noBracket : '[' ∉ value) :
    ofCondition (part.name ++ ',' :: value) = .datePart part value := by
  have letters : '(' ∉ part.name ∧ '[' ∉ part.name := by cases part <;> decide
  have noSet : ¬ HasSet (part.name ++ ',' :: value) :=
    not_encloses_of_absent (by simp [letters.1, noParenthesis])
  have noRange : ¬ HasRange (part.name ++ ',' :: value) :=
    not_encloses_of_absent (by simp [letters.2, noBracket])
  have found := search_of_read (datePartAt?_eq_some.mpr ⟨part, value, rfl, rfl⟩)
  rw [ofCondition_of_datePart noSet noRange found, line_of_noBreak noBreak]

theorem free_between_marks {mark : Char} (known : mark = '%' ∨ mark = '/') {s : Text}
    (noSet : ¬ HasSet s) (noRange : ¬ HasRange s) (noDatePart : ¬ HasDatePart s) :
    ¬ HasSet (mark :: (s ++ [mark])) ∧ ¬ HasRange (mark :: (s ++ [mark])) ∧
      ¬ HasDatePart (mark :: (s ++ [mark])) := by
  have harmless : (mark ≠ '(' ∧ mark ≠ ')') ∧ (mark ≠ '[' ∧ mark ≠ ']') ∧
      mark ∉ partInitials ∧ mark ≠ ',' := by
    rcases known with same | same <;> rw [same] <;> decide
  obtain ⟨parenthesis, bracket, letter, comma⟩ := harmless
  refine ⟨?_, ?_, ?_⟩
  · rwa [HasSet, encloses_cons parenthesis.1, encloses_concat parenthesis.2]
  · rwa [HasRange, encloses_cons bracket.1, encloses_concat bracket.2]
  · rwa [hasDatePart_cons letter, hasDatePart_concat comma]

theorem ofCondition_written_pattern {inner : Text} (some : inner ≠ []) (noPercent : '%' ∉ inner)
    (noSet : ¬ HasSet inner) (noRange : ¬ HasRange inner) (noDatePart : ¬ HasDatePart inner) :
    ofCondition ('%' :: (inner ++ ['%'])) = .pattern ('%' :: (inner ++ ['%'])) := by
  have free := free_between_marks (Or.inl rfl) noSet noRange noDatePart
  refine ofCondition_of_pattern free.1 free.2.1 free.2.2 (search_of_read ?_)
  exact patternAt?_eq_some.mpr ⟨inner, [], rfl, some, noPercent, rfl⟩

theorem ofCondition_written_regexp {t : Text} (noBreak : '\n' ∉ t) (noSet : ¬ HasSet t)
    (noRange : ¬ HasRange t) (noDatePart : ¬ HasDatePart t) (noPattern : ¬ HasPattern t) :
    ofCondition ('/' :: (t ++ ['/'])) = .regexp t := by
  have free := free_between_marks (Or.inr rfl) noSet noRange noDatePart
  have noPattern' : ¬ HasPattern ('/' :: (t ++ ['/'])) := by
    rwa [HasPattern, encloses_cons (by decide), encloses_concat (by decide)]
  refine ofCondition_of_regexp free.1 free.2.1 free.2.2 noPattern' (search_of_read ?_)
  exact regexpAt?_eq_some.mpr ⟨t, [], rfl, noBreak, by simp [line], rfl⟩

theorem comparisons_harmless : ∀ op ∈ comparisons, '(' ∉ op ∧ '[' ∉ op ∧ '%' ∉ op ∧ '/' ∉ op ∧
    ∀ d ∈ op, d ∉ partInitials := by
  intro op known
  have marks : ∀ op ∈ comparisons, '(' ∉ op ∧ '[' ∉ op ∧ '%' ∉ op ∧ '/' ∉ op := by decide
  have letters : ∀ op ∈ comparisons, op.all (· ∉ partInitials) = true := by decide
  obtain ⟨parenthesis, bracket, percent, slash⟩ := marks op known
  refine ⟨parenthesis, bracket, percent, slash, ?_⟩
  intro d member
  exact of_decide_eq_true (List.all_eq_true.mp (letters op known) d member)

theorem basicOf_none {t : Text} (bare : ∀ other ∈ operators, ¬ other <+: t) :
    basicOf t = .basic none (line t) := by
  have missing : operators.find? (·.isPrefixOf t) = none := by
    rw [List.find?_eq_none]
    intro other member opens
    exact bare other member (List.isPrefixOf_iff_prefix.mp opens)
  rw [basicOf, missing]

theorem basicOf_some {op t : Text} (found : operators.find? (·.isPrefixOf (op ++ t)) = some op) :
    basicOf (op ++ t) = .basic (some op) (line t) := by
  rw [basicOf, found]
  dsimp only
  rw [List.drop_left]

theorem basicOf_comparison {op t : Text} (known : op ∈ comparisons)
    (longest : ∀ other ∈ operators, op.length < other.length → ¬ other <+: op ++ t) :
    basicOf (op ++ t) = .basic (if op = [] then none else some op) (line t) := by
  have longer : ∀ other ∈ operators, op.length < other.length →
      other.isPrefixOf (op ++ t) = false := by
    intro other member more
    rw [Bool.eq_false_iff]
    exact fun opens => longest other member more (List.isPrefixOf_iff_prefix.mp opens)
  simp only [comparisons, List.mem_cons, List.not_mem_nil, or_false] at known
  rcases known with rfl | rfl | rfl | rfl | rfl | rfl
  · refine basicOf_none ?_
    intro other member
    have size : ∀ other ∈ operators, 0 < other.length := by decide
    exact longest other member (size other member)
  · exact basicOf_some rfl
  · refine basicOf_some ?_
    rw [operators, List.find?_cons, longer ">=".toList (by decide) (by decide)]
    rfl
  · exact basicOf_some rfl
  · refine basicOf_some ?_
    have noEqual := longer "<=".toList (by decide) (by decide)
    change (match "<=".toList.isPrefixOf ("<".toList ++ t) with
      | true => some "<=".toList
      | false => some "<".toList) = some "<".toList
    rw [noEqual]
  · exact basicOf_some rfl

theorem ofCondition_written_comparison {op t : Text} (known : op ∈ comparisons)
    (noBreak : '\n' ∉ t)
    (longest : ∀ other ∈ operators, op.length < other.length → ¬ other <+: op ++ t)
    (noSet : ¬ HasSet t) (noRange : ¬ HasRange t) (noDatePart : ¬ HasDatePart t)
    (noPattern : ¬ HasPattern t) (noRegexp : ¬ HasRegexp t) :
    ofCondition (op ++ t) = .basic (if op = [] then none else some op) t := by
  obtain ⟨parenthesis, bracket, percent, slash, letters⟩ := comparisons_harmless op known
  have noSet' : ¬ HasSet (op ++ t) := by rwa [HasSet, encloses_append parenthesis]
  have noRange' : ¬ HasRange (op ++ t) := by rwa [HasRange, encloses_append bracket]
  have noDatePart' : ¬ HasDatePart (op ++ t) := by rwa [hasDatePart_append letters]
  have noPattern' : ¬ HasPattern (op ++ t) := by rwa [HasPattern, encloses_append percent]
  have noRegexp' : ¬ HasRegexp (op ++ t) := by rwa [HasRegexp, encloses_append slash]
  rw [ofCondition_of_basic noSet' noRange' noDatePart' noPattern' noRegexp',
    basicOf_comparison known longest, line_of_noBreak noBreak]

theorem ofCondition_written_contains {inner : Text} (noBreak : '\n' ∉ inner)
    (noSet : ¬ HasSet inner) (noRange : ¬ HasRange inner) (noDatePart : ¬ HasDatePart inner)
    (noPattern : ¬ HasPattern ('%' :: inner)) (noRegexp : ¬ HasRegexp inner) :
    ofCondition ('%' :: inner) = .basic (some ['%']) inner := by
  have noSet' : ¬ HasSet ('%' :: inner) := by rwa [HasSet, encloses_cons (by decide)]
  have noRange' : ¬ HasRange ('%' :: inner) := by rwa [HasRange, encloses_cons (by decide)]
  have noDatePart' : ¬ HasDatePart ('%' :: inner) := by rwa [hasDatePart_cons (by decide)]
  have noRegexp' : ¬ HasRegexp ('%' :: inner) := by rwa [HasRegexp, encloses_cons (by decide)]
  rw [ofCondition_of_basic noSet' noRange' noDatePart' noPattern noRegexp']
  change basicOf (['%'] ++ inner) = _
  rw [basicOf_some rfl, line_of_noBreak noBreak]

end Shapes

theorem predicate_comparison {op : Text} (known : op ∈ comparisons) (t : SearchTerm) (value : Text) :
    predicate t (.basic (if op = [] then none else some op) value) =
      { column := t.column, kind := .basic, operands := [.ofValue value], isOr := t.isOr,
        comparator := some (if op = [] then ['='] else op) } := by
  have noPercent : op ≠ ['%'] := by
    rintro rfl
    exact absurd known (by decide)
  by_cases empty : op = []
  · simp [predicate, empty]
  · simp [predicate, empty, noPercent]

theorem classify_written {p : Predicate} {condition : Text} (written : Written p condition) :
    SearchTerm.classify ⟨p.column, condition, p.isOr⟩ = p := by
  cases written with
  | @set column isOr negated values texts some filled items =>
    have comma : Plain [','] := by decide
    have plain := plain_join comma fun t member => (items_forall items t member).1
    have textsSome : texts ≠ [] := by
      intro empty
      subst empty
      exact some (List.forall₂_nil_right_iff.mp items)
    have split := splitAt_join textsSome fun t member => (items_forall items t member).2
    rw [SearchTerm.classify,
      ofCondition_written_set (items_join_ne_nil some filled items) (plain_noBreak plain),
      predicate, split, items_ofItem items]
  | between column isOr lowPlain highPlain lowOpen highOpen lowComma highClose =>
    rw [SearchTerm.classify, ofCondition_written_range (plain_noBreak lowPlain)
      (plain_noBreak highPlain) lowOpen highOpen lowComma highClose, predicate]
  | datePart column isOr part plain noParenthesis noBracket =>
    rw [SearchTerm.classify,
      ofCondition_written_datePart part (plain_noBreak plain) noParenthesis noBracket, predicate]
  | like column isOr some plain noPercent noSet noRange noDatePart =>
    rw [SearchTerm.classify,
      ofCondition_written_pattern some noPercent noSet noRange noDatePart, predicate]
  | regexp column isOr value noSet noRange noDatePart noPattern =>
    rw [SearchTerm.classify,
      ofCondition_written_regexp (plain_noBreak (writtenValue_plain value)) noSet noRange noDatePart
        noPattern, predicate, ofValue_written value]
  | @compare column isOr op known value t written longest noSet noRange noDatePart noPattern noRegexp =>
    have noBreak := plain_noBreak (writtenValue_plain written)
    rw [SearchTerm.classify, ofCondition_written_comparison known noBreak longest noSet noRange
      noDatePart noPattern noRegexp, predicate_comparison known, ofValue_written written]
  | contains column isOr plain noSet noRange noDatePart noPattern noRegexp =>
    rw [SearchTerm.classify, ofCondition_written_contains (plain_noBreak plain) noSet noRange
      noDatePart noPattern noRegexp, predicate]
    simp [Operand.ofValue_percent]

theorem resolve_of_find? {map : ColumnMap} {key column : Text} (some : key ≠ [])
    (found : Assoc.find? map key = .some column) : map.resolve key = .some column :=
  ColumnMap.resolve_iff.mpr ⟨some, found⟩

theorem parse?_written {map : ColumnMap} {p : Predicate} {token : Text}
    (written : WrittenToken map p token) :
    (SearchTerm.parse? map token).map SearchTerm.classify = some p := by
  obtain ⟨key, condition, some, plain, noColon, bare, found, asked, rfl⟩ := written
  have reads : SearchTerm.Reads map (SearchTerm.headOf key p.isOr ++ ':' :: condition) key
      ⟨p.column, condition, p.isOr⟩ := ⟨rfl, some, noColon, fun _ => bare, found⟩
  rw [reads.parsed, Option.map_some, classify_written asked]

theorem writtenToken_plain {map : ColumnMap} {p : Predicate} {token : Text}
    (written : WrittenToken map p token) : token ≠ [] ∧ Plain token := by
  obtain ⟨key, condition, _, plain, _, _, _, asked, rfl⟩ := written
  have head : Plain (SearchTerm.headOf key p.isOr) := by
    unfold SearchTerm.headOf
    split
    · exact plain_cons.mpr ⟨by decide, plain⟩
    · exact plain
  refine ⟨by simp, plain_append.mpr ⟨head, plain_cons.mpr ⟨by decide, written_plain asked⟩⟩⟩

theorem tokenize_join_plain {tokens : List Text} (plain : ∀ t ∈ tokens, t ≠ [] ∧ Plain t) :
    Token.tokenize (join [' '] tokens) = tokens := by
  cases tokens with
  | nil => rfl
  | cons first rest =>
    have start := plain_startsDark (plain first List.mem_cons_self).2
    refine Token.tokenize_join start ?_ ?_
    · exact fun t member => ⟨(plain t member).1, plain_solid (plain t member).2⟩
    · intro t member
      rw [plain_quoteCount (plain t (List.mem_cons_of_mem first member)).2]

theorem classify_parseAll_written {map : ColumnMap} {ps : List Predicate} {tokens : List Text}
    (written : List.Forall₂ (WrittenToken map) ps tokens) :
    (SearchTerm.parseAll map tokens).map SearchTerm.classify = ps := by
  induction written with
  | nil => rfl
  | cons asked _ ih =>
    obtain ⟨term, parsed, classified⟩ := Option.map_eq_some_iff.mp (parse?_written asked)
    simp only [SearchTerm.parseAll] at ih
    rw [SearchTerm.parseAll, List.filterMap_cons, parsed]
    simp [classified, ih]

theorem forall_plain_of_written {map : ColumnMap} {ps : List Predicate} {tokens : List Text}
    (written : List.Forall₂ (WrittenToken map) ps tokens) : ∀ t ∈ tokens, t ≠ [] ∧ Plain t := by
  induction written with
  | nil => exact List.forall_mem_nil _
  | cons asked _ ih => exact List.forall_mem_cons.mpr ⟨writtenToken_plain asked, ih⟩

/-- Predicates written one behind the other, with single blanks between them, are what their text is
    compiled to. -/
theorem compile_written (map : ColumnMap) (ps : List Predicate) (tokens : List Text)
    (written : List.Forall₂ (WrittenToken map) ps tokens) :
    compile (some (join [' '] tokens)) map = ps := by
  rw [compile, Option.getD_some, tokenize_join_plain (forall_plain_of_written written),
    classify_parseAll_written written]

def mixedMap : ColumnMap := [("ID".toList, "id".toList), ("a|b".toList, "name".toList)]

def mixedPredicates : List Predicate :=
  [{ column := "id".toList, kind := .notIn,
     operands := [.text "7".toList, .null, .text "f(x)[%/".toList] },
    { column := "name".toList, kind := .regexp, operands := [.null], isOr := true },
    { column := "id".toList, kind := .between, operands := [.text "]1".toList, .text "2,3".toList] },
    { column := "id".toList, kind := .basic, operands := [.text "!=5".toList], isOr := true,
      comparator := some ">".toList }]

def mixedTokens : List Text :=
  ["ID:!(7,NULL,f(x)[%/)".toList, "|a|b:/NULL/".toList, "ID:[]1,2,3]".toList, "|ID:>!=5".toList]

theorem compile_written_mixed :
    List.Forall₂ (WrittenToken mixedMap) mixedPredicates mixedTokens ∧
      compile (some (join [' '] mixedTokens)) mixedMap = mixedPredicates := by
  have written : List.Forall₂ (WrittenToken mixedMap) mixedPredicates mixedTokens := by
    refine .cons ⟨"ID".toList, _, by decide, by decide, by decide, by decide, by decide, ?_, rfl⟩
      (.cons ⟨"a|b".toList, _, by decide, by decide, by decide, by decide, by decide, ?_, rfl⟩
      (.cons ⟨"ID".toList, _, by decide, by decide, by decide, by decide, by decide, ?_, rfl⟩
      (.cons ⟨"ID".toList, _, by decide, by decide, by decide, by decide, by decide, ?_, rfl⟩
      .nil)))
    · exact Written.set _ false true (by decide) (by decide)
        (.cons ⟨.text (by decide) (by decide), by decide⟩ (.cons ⟨.null, by decide⟩
        (.cons ⟨.text (by decide) (by decide), by decide⟩ .nil)))
    · exact Written.regexp _ true .null (by decide) (by decide) (by decide) (by decide)
    · exact Written.between _ false (by decide) (by decide) (by decide) (by decide) (by decide)
        (by decide)
    · exact Written.compare _ true (show ">".toList ∈ comparisons by decide)
        (.text (show Plain "!=5".toList by decide) (by decide)) (by decide) (by decide) (by decide)
        (by decide) (by decide) (by decide)
  exact ⟨written, compile_written mixedMap mixedPredicates mixedTokens written⟩

end SearchBox
