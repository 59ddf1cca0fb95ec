import Mathlib.Data.Finset.Max
import SearchBox.Proofs.WrittenSearch

/- How far the texts of a condition's shape reach. A shape begins at the first place where one of its kind
   can, and from there it is said where each of its texts ends: a set and a regular expression reach to the
   last closing mark of their line, a range and a pattern to the first one. -/
namespace SearchBox
open Text Shape

namespace Shape

/-- `rest` starts at the first place of `s` at which `P` holds, with `before` in front of it. -/
structure FirstAt (P : Text → Prop) (s before rest : Text) : Prop where
  split : s = before ++ rest
  holds : P rest
  earliest : ∀ b r, s = b ++ r → b.length < before.length → ¬ P r

section First
variable {P : Text → Prop} {s before rest : Text}

theorem exists_firstAt (some : ∃ tail, tail <:+ s ∧ P tail) :
    ∃ before rest, FirstAt P s before rest := by
  classical
  have place : ∃ n, ∃ b r, s = b ++ r ∧ b.length = n ∧ P r := by
    obtain ⟨tail, ⟨b, split⟩, holds⟩ := some
    exact ⟨b.length, b, tail, split.symm, rfl, holds⟩
  obtain ⟨before, rest, split, size, holds⟩ := Nat.find_spec place
  refine ⟨before, rest, split, holds, ?_⟩
  intro b r other shorter earlier
  exact Nat.find_min place (size ▸ shorter) ⟨b, r, other, rfl, earlier⟩

theorem search_of_first {α : Type} {read : Text → Option α} {x : α}
    (first : FirstAt (fun t => (read t).isSome = true) s before rest) (reads : read rest = some x) :
    search read s = some x := by
  induction before generalizing s with
  | nil =>
    rw [first.split]
    exact search_of_read reads
  | cons c b ih =>
    have missed : read (c :: (b ++ rest)) = none := by
      have := first.earliest [] s rfl (by simp)
      rw [first.split] at this
      simpa using this
    rw [first.split, List.cons_append, search_cons_of_none missed]
    refine ih ⟨rfl, first.holds, ?_⟩
    intro b' r split shorter
    refine first.earliest (c :: b') r ?_ (by simpa using shorter)
    rw [first.split, List.cons_append, split, List.cons_append]

end First

section Readings
variable {s before after : Text}

theorem items_ne_nil {items : Text} (opens : OpensSet ('(' :: (items ++ ')' :: after)))
    (last : ')' ∉ line after) : items ≠ [] := by
  rintro rfl
  obtain ⟨inner, tail, split, inside, noBreak⟩ := opens
  obtain ⟨c, more, rfl⟩ := List.exists_cons_of_ne_nil inside
  simp only [List.nil_append, List.cons_append, List.cons.injEq, true_and] at split
  refine last ?_
  rw [split.2, line_append_cons (fun member => noBreak (by simp [member])) (by decide)]
  simp

theorem firstAt_negated {lead rest : Text} (first : FirstAt OpensSet s (lead ++ ['!']) rest) :
    FirstAt (fun t => (setAt? t).isSome = true) s lead ('!' :: rest) := by
  refine ⟨by simp [first.split], setAt?_isSome.mpr (Or.inr ⟨rest, rfl, first.holds⟩), ?_⟩
  intro b r split shorter found
  rcases setAt?_isSome.mp found with opens | ⟨t, rfl, opens⟩
  · exact first.earliest b r split (by simp; omega) opens
  · exact first.earliest (b ++ ['!']) t (by simp [split]) (by simpa using shorter) opens

theorem firstAt_plain {rest : Text} (first : FirstAt OpensSet s before rest)
    (bare : before.getLast? ≠ some '!') :
    FirstAt (fun t => (setAt? t).isSome = true) s before rest := by
  refine ⟨first.split, setAt?_isSome.mpr (Or.inl first.holds), ?_⟩
  intro b r split shorter found
  rcases setAt?_isSome.mp found with opens | ⟨t, rfl, opens⟩
  · exact first.earliest b r split shorter opens
  · have whole : s = (b ++ ['!']) ++ t := by simp [split]
    rcases Nat.lt_or_eq_of_le (Nat.succ_le_of_lt shorter) with less | same
    · exact first.earliest (b ++ ['!']) t whole (by simpa using less) opens
    -- a mark right in front of the set is the one that was excluded
    · refine bare ?_
      have lead := (List.append_inj (whole.symm.trans first.split) (by simpa using same)).1
      rw [← lead, List.getLast?_concat]

theorem search_set_first {items : Text}
    (first : FirstAt OpensSet s before ('(' :: (items ++ ')' :: after))) (noBreak : '\n' ∉ items)
    (last : ')' ∉ line after) :
    search setAt? s = some (.set (decide (before.getLast? = some '!')) items) := by
  have reads (negated : Bool) :
      setAt? ((if negated then ['!'] else []) ++ '(' :: (items ++ ')' :: after)) =
        some (.set negated items) :=
    setAt?_eq_some.mpr ⟨negated, items, after, rfl, items_ne_nil first.holds last, noBreak, last, rfl⟩
  by_cases bang : before.getLast? = some '!'
  · obtain ⟨lead, rfl⟩ := List.getLast?_eq_some_iff.mp bang
    rw [search_of_first (firstAt_negated first) (reads true), decide_eq_true bang]
  · rw [search_of_first (firstAt_plain first bang) (reads false), decide_eq_false bang]

theorem search_first {read : Text → Option Shape} {P : Text → Prop} {rest : Text} {x : Shape}
    (isSome : ∀ {t}, (read t).isSome = true ↔ P t) (first : FirstAt P s before rest)
    (reads : read rest = some x) : search read s = some x := by
  refine search_of_first ⟨first.split, isSome.mpr first.holds, ?_⟩ reads
  intro b r split shorter found
  exact first.earliest b r split shorter (isSome.mp found)

theorem search_range_first {low high : Text}
    (first : FirstAt OpensRange s before ('[' :: (low ++ ',' :: (high ++ ']' :: after))))
    (noComma : ',' ∉ low) (noBracket : ']' ∉ high) :
    search rangeAt? s = some (.range low high) := by
  obtain ⟨x, reads⟩ := Option.isSome_iff_exists.mp (rangeAt?_isSome.mpr first.holds)
  obtain ⟨low', high', after', rfl, _, noComma', _, noBracket', split⟩ := rangeAt?_eq_some.mp reads
  obtain ⟨rfl, tail⟩ := cut_unique noComma noComma' (List.cons.inj split).2
  obtain ⟨rfl, _⟩ := cut_unique noBracket noBracket' tail
  exact search_first rangeAt?_isSome first reads

theorem search_datePart_first {part : DatePart} {rest : Text}
    (first : FirstAt OpensDatePart s before (part.name ++ ',' :: rest)) :
    search datePartAt? s = some (.datePart part (line rest)) :=
  search_first datePartAt?_isSome first (datePartAt?_eq_some.mpr ⟨part, rest, rfl, rfl⟩)

theorem search_pattern_first {inner : Text}
    (first : FirstAt OpensPattern s before ('%' :: (inner ++ '%' :: after))) (absent : '%' ∉ inner) :
    search patternAt? s = some (.pattern ('%' :: inner ++ ['%'])) := by
  obtain ⟨x, reads⟩ := Option.isSome_iff_exists.mp (patternAt?_isSome.mpr first.holds)
  obtain ⟨inner', after', rfl, _, absent', split⟩ := patternAt?_eq_some.mp reads
  obtain ⟨rfl, _⟩ := cut_unique absent absent' (List.cons.inj split).2
  exact search_first patternAt?_isSome first reads

theorem search_regexp_first {inner : Text}
    (first : FirstAt OpensRegexp s before ('/' :: (inner ++ '/' :: after))) (noBreak : '\n' ∉ inner)
    (last : '/' ∉ line after) : search regexpAt? s = some (.regexp inner) :=
  search_first regexpAt?_isSome first
    (regexpAt?_eq_some.mpr ⟨inner, after, rfl, noBreak, last, rfl⟩)

end Readings
end Shape

/-- `t.Extracts p`: the texts of `p` are those parts of the condition that its shape reaches over. A line
    ends at a line feed, and an operator is the longest one that the condition starts with. -/
inductive SearchTerm.Extracts (t : SearchTerm) : Predicate → Prop where
  | set {before items after : Text} {pieces : List Text}
      (first : FirstAt OpensSet t.condition before ('(' :: (items ++ ')' :: after)))
      (noBreak : '\n' ∉ items) (last : ')' ∉ line after) (some : pieces ≠ [])
      (absent : ∀ piece ∈ pieces, ',' ∉ piece) (cut : join [','] pieces = items) :
      Extracts t
        { column := t.column
          kind := if before.getLast? = Option.some '!' then .notIn else .isIn
          operands := pieces.map fun piece => if piece = "NULL".toList then .null else .text piece
          isOr := t.isOr }
  | range {before low high after : Text} (noSet : ¬ HasSet t.condition)
      (first : FirstAt OpensRange t.condition before
        ('[' :: (low ++ ',' :: (high ++ ']' :: after))))
      (noComma : ',' ∉ low) (noBracket : ']' ∉ high) :
      Extracts t
        { column := t.column, kind := .between, operands := [.text low, .text high], isOr := t.isOr }
  | datePart {before rest : Text} {part : DatePart} (noSet : ¬ HasSet t.condition)
      (noRange : ¬ HasRange t.condition)
      (first : FirstAt OpensDatePart t.condition before (part.name ++ ',' :: rest)) :
      Extracts t
        { column := t.column, kind := .datePart, operands := [.text (line rest)], isOr := t.isOr
          datePart := some part }
  | pattern {before inner after : Text} (noSet : ¬ HasSet t.condition)
      (noRange : ¬ HasRange t.condition) (noDatePart : ¬ HasDatePart t.condition)
      (first : FirstAt OpensPattern t.condition before ('%' :: (inner ++ '%' :: after)))
      (absent : '%' ∉ inner) :
      Extracts t
        { column := t.column, kind := .like, operands := [.text ('%' :: inner ++ ['%'])]
          isOr := t.isOr }
  | regexp {before inner after : Text} (noSet : ¬ HasSet t.condition)
      (noRange : ¬ HasRange t.condition) (noDatePart : ¬ HasDatePart t.condition)
      (noPattern : ¬ HasPattern t.condition)
      (first : FirstAt OpensRegexp t.condition before ('/' :: (inner ++ '/' :: after)))
      (noBreak : '\n' ∉ inner) (last : '/' ∉ line after) :
      Extracts t
        { column := t.column, kind := .regexp, operands := [.ofValue inner], isOr := t.isOr }
  | compare {op rest : Text} (noSet : ¬ HasSet t.condition) (noRange : ¬ HasRange t.condition)
      (noDatePart : ¬ HasDatePart t.condition) (noPattern : ¬ HasPattern t.condition)
      (noRegexp : ¬ HasRegexp t.condition) (split : t.condition = op ++ rest)
      (known : op ∈ comparisons)
      (longest : ∀ other ∈ operators, op.length < other.length → ¬ other <+: t.condition) :
      Extracts t
        { column := t.column, kind := .basic, operands := [.ofValue (line rest)], isOr := t.isOr
          comparator := some (if op = [] then ['='] else op) }
  | contains {rest : Text} (noSet : ¬ HasSet t.condition) (noRange : ¬ HasRange t.condition)
      (noDatePart : ¬ HasDatePart t.condition) (noPattern : ¬ HasPattern t.condition)
      (noRegexp : ¬ HasRegexp t.condition) (split : t.condition = '%' :: rest) :
      Extracts t
        { column := t.column, kind := .basic, operands := [.text ('%' :: line rest ++ ['%'])]
          isOr := t.isOr, comparator := some "like".toList }

section Extents
variable {t : SearchTerm} {p : Predicate}

theorem classify_of_extracts (extracts : t.Extracts p) : t.classify = p := by
  cases extracts with
  | @set before items after pieces first noBreak last some absent cut =>
    have pieces : items.splitAt ',' = pieces := by rw [← cut, splitAt_join some absent]
    rw [SearchTerm.classify, ofCondition_of_set (search_set_first first noBreak last), predicate, pieces]
    simp only [decide_eq_true_eq]
    rfl
  | range noSet first noComma noBracket =>
    rw [SearchTerm.classify, ofCondition_of_range noSet (search_range_first first noComma noBracket),
      predicate]
  | datePart noSet noRange first =>
    rw [SearchTerm.classify, ofCondition_of_datePart noSet noRange (search_datePart_first first),
      predicate]
  | pattern noSet noRange noDatePart first absent =>
    rw [SearchTerm.classify,
      ofCondition_of_pattern noSet noRange noDatePart (search_pattern_first first absent), predicate]
  | regexp noSet noRange noDatePart noPattern first noBreak last =>
    rw [SearchTerm.classify, ofCondition_of_regexp noSet noRange noDatePart noPattern
      (search_regexp_first first noBreak last), predicate]
  | @compare op rest noSet noRange noDatePart noPattern noRegexp split known longest =>
    have reads : basicOf t.condition = .basic (if op = [] then none else some op) (line rest) := by
      rw [split] at longest ⊢
      exact basicOf_comparison known longest
    rw [SearchTerm.classify, ofCondition_of_basic noSet noRange noDatePart noPattern noRegexp, reads]
    exact predicate_comparison known t (line rest)
  | @contains rest noSet noRange noDatePart noPattern noRegexp split =>
    have reads : basicOf t.condition = .basic (some ['%']) (line rest) := by
      rw [split]
      change basicOf (['%'] ++ rest) = _
      exact basicOf_some rfl
    rw [SearchTerm.classify, ofCondition_of_basic noSet noRange noDatePart noPattern noRegexp, reads]
    simp only [predicate, if_true, List.cons_append, Operand.ofValue_percent]

theorem exists_longest_operator {s : Text} (other : ∀ rest, s ≠ '%' :: rest) :
    ∃ op rest, s = op ++ rest ∧ op ∈ comparisons ∧
      ∀ other ∈ operators, op.length < other.length → ¬ other <+: s := by
  have bare : [] ∈ comparisons.toFinset.filter (· <+: s) := by
    rw [Finset.mem_filter]
    exact ⟨by decide, List.nil_prefix⟩
  obtain ⟨op, chosen, longest⟩ := Finset.exists_max_image _ List.length ⟨[], bare⟩
  obtain ⟨known, rest, split⟩ := Finset.mem_filter.mp chosen
  refine ⟨op, rest, split.symm, List.mem_toFinset.mp known, ?_⟩
  intro longer member more opens
  have either : ∀ o ∈ operators, o = ['%'] ∨ o ∈ comparisons := by decide
  rcases either longer member with rfl | comparison
  · obtain ⟨tail, percent⟩ := opens
    exact other tail percent.symm
  · have candidate : longer ∈ comparisons.toFinset.filter (· <+: s) :=
      Finset.mem_filter.mpr ⟨List.mem_toFinset.mpr comparison, opens⟩
    exact absurd (longest longer candidate) (by omega)

theorem exists_extracts (t : SearchTerm) : ∃ p, t.Extracts p := by
  by_cases set : HasSet t.condition
  · obtain ⟨before, rest, first⟩ := exists_firstAt (encloses_iff_opens.mp set)
    obtain ⟨inner, tail, rfl, _, innerLine⟩ := first.holds
    obtain ⟨more, after, split, moreLine, last⟩ := last_on_line (c := ')') (by decide) tail
    rw [split, ← List.append_assoc] at first
    exact ⟨_, .set first (by simp [innerLine, moreLine]) last (splitAt_ne_nil ',' _)
      (fun piece member => (mem_splitAt member).1) (join_splitAt ',' _)⟩
  by_cases range : HasRange t.condition
  · obtain ⟨before, rest, first⟩ := exists_firstAt (encloses_iff_opens.mp range)
    obtain ⟨x, reads⟩ := Option.isSome_iff_exists.mp (rangeAt?_isSome.mpr first.holds)
    obtain ⟨low, high, after, _, _, noComma, _, noBracket, rfl⟩ := rangeAt?_eq_some.mp reads
    exact ⟨_, .range set first noComma noBracket⟩
  by_cases datePart : HasDatePart t.condition
  · obtain ⟨before, rest, first⟩ := exists_firstAt (hasDatePart_iff_opens.mp datePart)
    obtain ⟨part, behind, rfl⟩ := first.holds
    rw [List.append_assoc] at first
    exact ⟨_, .datePart set range first⟩
  by_cases pattern : HasPattern t.condition
  · obtain ⟨before, rest, first⟩ := exists_firstAt (encloses_iff_opens.mp pattern)
    obtain ⟨inner, after, rfl, _, absent⟩ := first.holds
    exact ⟨_, .pattern set range datePart first absent⟩
  by_cases regexp : HasRegexp t.condition
  · obtain ⟨before, rest, first⟩ := exists_firstAt (encloses_iff_opens.mp regexp)
    obtain ⟨inner, tail, rfl, innerLine⟩ := first.holds
    obtain ⟨more, after, split, moreLine, last⟩ := last_on_line (c := '/') (by decide) tail
    rw [split, ← List.append_assoc] at first
    exact ⟨_, .regexp set range datePart pattern first (by simp [innerLine, moreLine]) last⟩
  by_cases percent : ∃ rest, t.condition = '%' :: rest
  · obtain ⟨rest, split⟩ := percent
    exact ⟨_, .contains set range datePart pattern regexp split⟩
  · obtain ⟨op, rest, split, known, longest⟩ := exists_longest_operator (not_exists.mp percent)
    exact ⟨_, .compare set range datePart pattern regexp split known longest⟩

end Extents

/-- A term is taken for the predicate whose texts reach as far as its shape says, and for no other. -/
theorem classify_eq_iff (t : SearchTerm) (p : Predicate) : t.classify = p ↔ t.Extracts p := by
  constructor
  · intro same
    obtain ⟨q, extracts⟩ := exists_extracts t
    rwa [← same, classify_of_extracts extracts]
  · exact classify_of_extracts

example : SearchTerm.classify ⟨"n".toList, "()!(1,NULL)x)\n(2)".toList, true⟩ =
    { column := "n".toList, kind := .isIn, isOr := true
      operands := [.text ")!(1".toList, .text "NULL)x".toList] } := by decide

end SearchBox
