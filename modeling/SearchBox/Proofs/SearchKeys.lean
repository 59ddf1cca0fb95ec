import SearchBox.Proofs.QuotedParts
import SearchBox.Proofs.RegisteredColumns
import SearchBox.Proofs.WrittenSearch

/- Searches of one term: a key, a colon and a condition. Labels are taken over as keys as they are, but a key
   is read from a token up to the first colon and without a bar, so not every label can be written as one. -/
namespace SearchBox
open Text Token

theorem quoteCount_term {s : Text} (plain : Plain s) : quoteCount (':' :: s) % 2 = 0 := by
  rw [plain_quoteCount (plain_cons.mpr ⟨by decide, plain⟩)]

theorem compile_term {map : ColumnMap} {key condition column : Text} (noColon : ':' ∉ key)
    (bare : key.head? ≠ some '|') (known : map.resolve key = some column) (start : StartsDark key)
    (solid : Solid (key ++ ':' :: condition) []) :
    compile (some (key ++ ':' :: condition)) map =
      [SearchTerm.classify ⟨column, condition, false⟩] := by
  have first : StartsDark (key ++ ':' :: condition) := by
    cases key with
    | nil =>
      intro c head
      cases head
      decide
    | cons c rest => exact start
  obtain ⟨filled, found⟩ := ColumnMap.resolve_iff.mp known
  have reads : SearchTerm.Reads map (key ++ ':' :: condition) key ⟨column, condition, false⟩ :=
    ⟨rfl, filled, noColon, fun _ => bare, found⟩
  rw [compile, Option.getD_some, tokenize_eq_pieces_trimStart, trimStart_of_startsDark first,
    pieces_of_solid (by simp) solid]
  simp [SearchTerm.parseAll, reads.parsed]

section Columns

theorem Column.make_trimmed {name label : Datum} {c : Column} (made : Column.make name label = .ok c) :
    c.name.Trimmed ∧ c.label.Trimmed := by
  rw [Column.make] at made
  cases named : name.nonBlank? with
  | none =>
    rw [named] at made
    cases made
  | some n =>
    rw [named] at made
    cases made
    have nameTrimmed := Datum.nonBlank?_trimmed named
    refine ⟨nameTrimmed, ?_⟩
    cases labelled : label.nonBlank? with
    | none => exact nameTrimmed
    | some t => exact Datum.nonBlank?_trimmed labelled

theorem Column.make_label {name label : Datum} {c : Column} (made : Column.make name label = .ok c) :
    c.label ≠ [] ∧ StartsDark c.label := by
  have trimmed := (make_trimmed made).2
  exact ⟨trimmed.1, trimmed.startsDark⟩

end Columns

section Labels

/-- Whether a label can be written as a key: it holds no colon, it does not start with a bar, and it is in one
    token with the condition behind it. -/
def Addressable (label : Text) : Prop :=
  ':' ∉ label ∧ label.head? ≠ some '|' ∧ Solid label []

variable {label s : Text}

theorem solid_term (plain : Plain s) : Solid (label ++ ':' :: s) [] ↔ Solid label [] := by
  have rest : Solid (':' :: s) [] := plain_solid (plain_cons.mpr ⟨by decide, plain⟩)
  rw [solid_append, and_iff_left rest, List.append_nil, solid_iff_of_even (quoteCount_term plain)]

/-- Only the last piece of a text and a condition behind it has a colon, and only the end of the text is
    left to be its key. The induction is on the length: what stands before the first cut has no colon. -/
theorem piece_of_term (plain : Plain s) (noColon : ':' ∉ label) {token : Text}
    (member : token ∈ pieces (label ++ ':' :: s)) :
    ':' ∉ token ∨ ∃ key, token = key ++ ':' :: s ∧ key <:+ label ∧ (key = label → Solid label []) := by
  induction size : label.length using Nat.strongRecOn generalizing label with
  | ind n ih =>
    rcases first_cut label with whole | ⟨first, c, rest, rfl, blank, even, solid⟩
    · have same := eq_of_mem_pieces ((solid_term plain).mpr whole) member
      exact Or.inr ⟨label, same, List.suffix_refl label, fun _ => whole⟩
    · have restEven : quoteCount (rest ++ ':' :: s) % 2 = 0 := by
        have := quoteCount_term plain
        rw [quoteCount_append]
        omega
      rw [List.append_assoc, List.cons_append, pieces_append_separator first blank restEven,
        List.mem_append] at member
      rcases member with inFirst | inRest
      · left
        have whole : Solid first [] := by
          refine (solid_iff_of_even ?_).mp solid
          rw [quoteCount_cons_blank blank, even]
        rw [eq_of_mem_pieces whole inFirst]
        exact fun member => noColon (List.mem_append_left _ member)
      · have shorter : rest.length < (first ++ c :: rest).length := by
          simp only [List.length_append, List.length_cons]
          omega
        have restNoColon : ':' ∉ rest :=
          fun member => noColon (List.mem_append_right _ (List.mem_cons_of_mem c member))
        rcases ih rest.length (size ▸ shorter) restNoColon inRest rfl with
          absent | ⟨key, split, suffix, _⟩
        · exact Or.inl absent
        · refine Or.inr ⟨key, split, suffix.trans ⟨first ++ [c], by simp⟩, ?_⟩
          rintro rfl
          exact absurd suffix.length_le (Nat.not_le.mpr shorter)

theorem stripBar_suffix (head : Text) : (SearchTerm.stripBar head).1 <:+ head := by
  unfold SearchTerm.stripBar
  split
  · exact List.suffix_cons '|' _
  · exact List.suffix_refl _

theorem key_ne_label (plain : Plain s) (unwritable : ¬ Addressable label) {head condition : Text}
    (member : head ++ ':' :: condition ∈ pieces (label ++ ':' :: s)) (noColon : ':' ∉ head) :
    (SearchTerm.stripBar head).1 ≠ label := by
  intro same
  have suffix := stripBar_suffix head
  have labelNoColon : ':' ∉ label := by
    intro inLabel
    rw [← same] at inLabel
    exact noColon (suffix.subset inLabel)
  rcases piece_of_term plain labelNoColon member with absent | ⟨key, split, inLabel, whole⟩
  · exact absent (by simp)
  · have keyNoColon : ':' ∉ key := fun inKey => labelNoColon (inLabel.subset inKey)
    have cut := cutAt?_append noColon condition
    rw [split, cutAt?_append keyNoColon] at cut
    obtain ⟨rfl, rfl⟩ := Prod.mk.inj (Option.some.inj cut)
    have full : key = label := inLabel.eq_of_length_le (by rw [← same]; exact suffix.length_le)
    refine unwritable ⟨labelNoColon, ?_, whole full⟩
    -- the bar is taken off the key, which is too short to be the label then
    intro bar
    rw [← full] at bar same
    cases key with
    | nil => cases bar
    | cons c rest =>
      cases bar
      exact absurd same (List.cons_ne_self '|' rest).symm

theorem parse?_insert {map : ColumnMap} {token : Text} (column : Text)
    (other : ∀ head condition, token = head ++ ':' :: condition → ':' ∉ head →
      (SearchTerm.stripBar head).1 ≠ label) :
    SearchTerm.parse? (Assoc.insert map label column) token = SearchTerm.parse? map token := by
  by_cases colon : ':' ∈ token
  · obtain ⟨head, condition, rfl, absent⟩ := List.eq_append_cons_of_mem colon
    have differs := Ne.symm (other head condition rfl absent)
    rw [SearchTerm.parse?_of_head _ absent, SearchTerm.parse?_of_head _ absent, ColumnMap.resolve,
      Assoc.find?_insert, if_neg differs, ColumnMap.resolve]
  · rw [SearchTerm.parse?_of_no_colon _ colon, SearchTerm.parse?_of_no_colon _ colon]

theorem compile_insert {map : ColumnMap} (some : label ≠ []) (start : StartsDark label)
    (plain : Plain s) (unwritable : ¬ Addressable label) (column : Text) :
    compile (.some (label ++ ':' :: s)) (Assoc.insert map label column) =
      compile (.some (label ++ ':' :: s)) map := by
  have first := (startsDark_append some (':' :: s)).mpr start
  rw [compile, compile, Option.getD_some, tokenize_eq_pieces_trimStart,
    trimStart_of_startsDark first]
  refine congrArg (List.map SearchTerm.classify) (List.filterMap_congr ?_)
  intro token member
  refine parse?_insert column ?_
  intro head condition split noColon
  exact key_ne_label plain unwritable (split ▸ member) noColon

end Labels

/-- A registered label that can be written as a key finds its column, whatever the condition asks for. Any
    other label finds nothing: whether it is registered makes no difference to its own search. -/
theorem compile_label {c : Column} {name label : Datum} (made : Column.make name label = .ok c)
    (before after : List Column) (last : ∀ d ∈ after, d.label ≠ c.label ∧ d.name ≠ c.label)
    {s : Text} (plain : Plain s) :
    (Addressable c.label →
      compile (some (c.label ++ ':' :: s)) (ColumnMap.ofColumns (before ++ c :: after)) =
          [SearchTerm.classify ⟨c.name, s, false⟩] ∧
        (SearchTerm.classify ⟨c.name, s, false⟩).isOr = false ∧
        (SearchTerm.classify ⟨c.name, s, false⟩).column = c.name) ∧
      (¬ Addressable c.label → ∀ (map : ColumnMap) (column : Text),
        compile (some (c.label ++ ':' :: s)) (Assoc.insert map c.label column) =
          compile (some (c.label ++ ':' :: s)) map) := by
  obtain ⟨filled, start⟩ := Column.make_label made
  constructor
  · rintro ⟨noColon, bare, solid⟩
    have known := resolve_of_find? filled (ColumnMap.find?_ofColumns before (Or.inl rfl) last)
    exact ⟨compile_term noColon bare known start ((solid_term plain).mpr solid),
      SearchTerm.classify_isOr _, SearchTerm.classify_column _⟩
  · intro unwritable map column
    exact compile_insert filled start plain unwritable column

theorem compile_label_quoted :
    Addressable "\"First Name\"".toList ∧
      compile (some "\"First Name\":[1,2]".toList)
          (ColumnMap.ofColumns [⟨"id".toList, "\"First Name\"".toList⟩,
            ⟨"first_name".toList, "\"First Name\"".toList⟩, ⟨"age".toList, "Age".toList⟩]) =
        [SearchTerm.classify ⟨"first_name".toList, "[1,2]".toList, false⟩] := by
  have unquoted : '"' ∉ "First Name".toList := by decide
  have addressable : Addressable "\"First Name\"".toList :=
    ⟨by decide, by decide, (solid_quoted unquoted []).mpr (Or.inl rfl)⟩
  have made : Column.make (.text "first_name".toList) (.text " \"First Name\"".toList) =
      .ok ⟨"first_name".toList, "\"First Name\"".toList⟩ := rfl
  have plain : Plain "[1,2]".toList := by decide
  have found := compile_label made [⟨"id".toList, "\"First Name\"".toList⟩]
    [⟨"age".toList, "Age".toList⟩] (by decide) plain
  exact ⟨addressable, (found.1 addressable).1⟩

/-- The blank of a label cuts its search in two, and neither half has the label for its key. -/
theorem label_cut :
    ¬ ∀ (name label : Datum) (c : Column), Column.make name label = .ok c →
      ∀ before after : List Column, (∀ d ∈ after, d.label ≠ c.label ∧ d.name ≠ c.label) →
        ∀ s : Text, Plain s →
          compile (some (c.label ++ ':' :: s)) (ColumnMap.ofColumns (before ++ c :: after)) =
            [SearchTerm.classify ⟨c.name, s, false⟩] := by
  intro all
  have found := all (.text "first_name".toList) (.text "First Name".toList)
    ⟨"first_name".toList, "First Name".toList⟩ rfl [] [] (by simp) "x".toList (by decide)
  revert found
  decide

section Quoted
variable {v : Text}

def Predicate.equality (column value : Text) : Predicate :=
  { column, kind := .basic, operands := [.text value], comparator := some "=".toList }

/-- What a search keeps of a text between double quotes: the first line of it with the quotes that are on
    this line, or without them if the line starts and ends with one. -/
def keptOf (v : Text) : Text :=
  if '\n' ∉ v then v else if Shape.line v = [] then [] else '"' :: Shape.line v

theorem keptOf_eq_self (unquoted : '"' ∉ v) : keptOf v = v ↔ '\n' ∉ v := by
  unfold keptOf
  constructor
  · intro same absent
    rw [if_neg (not_not_intro absent)] at same
    split at same
    · rw [← same] at absent
      cases absent
    · exact unquoted (by rw [← same]; exact List.mem_cons_self)
  · intro absent
    rw [if_pos absent]

theorem quote_cons_ne_nullWord (t : Text) : '"' :: t ≠ nullWord := by
  intro same
  exact absurd (List.cons.inj same).1 (by decide)

theorem ofValue_quotes (v : Text) : Operand.ofValue ('"' :: (v ++ ['"'])) = .text v := by
  have quoted : ('"' :: (v ++ ['"'])).getLast? = some '"' := by
    rw [← List.cons_append]
    exact List.getLast?_concat
  rw [Operand.ofValue, if_neg (quote_cons_ne_nullWord _), if_pos ⟨rfl, quoted⟩, List.drop_one, List.tail_cons,
    List.dropLast_concat]

theorem ofValue_quote {t : Text} (some : t ≠ []) (unquoted : '"' ∉ t) :
    Operand.ofValue ('"' :: t) = .text ('"' :: t) := by
  have unclosed : ¬ (('"' :: t).head? = .some '"' ∧ ('"' :: t).getLast? = .some '"') := by
    rintro ⟨_, last⟩
    rw [List.getLast?_cons_of_ne_nil some] at last
    exact unquoted (List.mem_of_getLast? last)
  rw [Operand.ofValue, if_neg (quote_cons_ne_nullWord _), if_neg unclosed]

theorem ofValue_quoted_line (unquoted : '"' ∉ v) :
    Operand.ofValue (Shape.line ('"' :: (v ++ ['"']))) = .text (keptOf v) := by
  by_cases broken : '\n' ∈ v
  · obtain ⟨first, rest, rfl, absent⟩ := List.eq_append_cons_of_mem broken
    have lineEq : Shape.line (first ++ '\n' :: rest) = first := Shape.takeWhile_append_cons absent rest
    have wholeEq : Shape.line ('"' :: (first ++ '\n' :: rest ++ ['"'])) = '"' :: first := by
      have quote : '\n' ∉ '"' :: first := by simp [absent]
      rw [List.append_assoc]
      exact Shape.takeWhile_append_cons quote (rest ++ ['"'])
    have firstUnquoted : '"' ∉ first := fun member => unquoted (List.mem_append_left _ member)
    rw [keptOf, if_neg (not_not_intro broken), lineEq, wholeEq]
    split
    · rename_i empty
      rw [empty]
      exact ofValue_quotes []
    · rename_i some
      exact ofValue_quote some firstUnquoted
  · have noBreak : '\n' ∉ '"' :: (v ++ ['"']) := by simp [broken]
    rw [Shape.line_of_noBreak noBreak, ofValue_quotes, keptOf, if_pos broken]

def marks : List Char := "\"()[],%/".toList

def Unmarked (t : Text) : Prop := ∀ c ∈ t, c ∉ marks

instance (t : Text) : Decidable (Unmarked t) := List.decidableBAll (fun c => c ∉ marks) t

theorem ofCondition_quoted (unmarked : Unmarked v) :
    Shape.ofCondition ('"' :: (v ++ ['"'])) = .basic none (Shape.line ('"' :: (v ++ ['"']))) := by
  have absent {c : Char} (mark : c ∈ marks) (other : c ≠ '"') : c ∉ '"' :: (v ++ ['"']) := by
    have : c ∉ v := fun member => unmarked c member mark
    simp [this, other]
  have noDatePart : ¬ Shape.HasDatePart ('"' :: (v ++ ['"'])) := by
    rintro ⟨part, found⟩
    exact absent (c := ',') (by decide) (by decide) (found.subset (by simp))
  rw [Shape.ofCondition_of_basic (Shape.not_encloses_of_absent (absent (by decide) (by decide)))
    (Shape.not_encloses_of_absent (absent (by decide) (by decide))) noDatePart
    (Shape.not_encloses_of_absent (absent (by decide) (by decide)))
    (Shape.not_encloses_of_absent (absent (by decide) (by decide)))]
  rfl

/-- A text between double quotes becomes the value that its key is compared with, blanks included, as long as
    it is on one line. Behind a line feed the text and its closing quote are lost. -/
theorem compile_quoted {map : ColumnMap} {key column : Text} (some : key ≠ []) (plain : Plain key)
    (noColon : ':' ∉ key) (bare : key.head? ≠ .some '|')
    (found : Assoc.find? map key = .some column) (unmarked : Unmarked v) :
    (compile (.some (key ++ ':' :: '"' :: (v ++ ['"']))) map = [.equality column v] ↔ '\n' ∉ v) ∧
      compile (.some (key ++ ':' :: '"' :: (v ++ ['"']))) map = [.equality column (keptOf v)] := by
  have unquoted : '"' ∉ v := fun member => unmarked '"' member (by decide)
  have solid : Solid (key ++ ':' :: '"' :: (v ++ ['"'])) [] := by
    have quoted := (solid_quoted unquoted []).mpr (Or.inl rfl)
    refine solid_append.mpr ⟨solid_of_no_blank (fun c member => (plain c member).1) _, ?_⟩
    exact (solid_cons_dark (by decide)).mpr quoted
  have compiled : compile (.some (key ++ ':' :: '"' :: (v ++ ['"']))) map =
      [.equality column (keptOf v)] := by
    rw [compile_term noColon bare (resolve_of_find? some found) (plain_startsDark plain) solid,
      SearchTerm.classify, ofCondition_quoted unmarked, Shape.predicate]
    simp [ofValue_quoted_line unquoted, Predicate.equality]
  refine ⟨?_, compiled⟩
  rw [compiled, ← keptOf_eq_self unquoted]
  simp [Predicate.equality]

theorem compile_quoted_blanks :
    Plain "name".toList ∧ Unmarked " a\tNULL ".toList ∧ '\n' ∉ " a\tNULL ".toList ∧
      compile (some "name:\" a\tNULL \"".toList) [("name".toList, "full_name".toList)] =
        [.equality "full_name".toList " a\tNULL ".toList] := by
  have plain : Plain "name".toList := by decide
  have unmarked : Unmarked " a\tNULL ".toList := by decide
  have line : '\n' ∉ " a\tNULL ".toList := by decide
  have compiled := compile_quoted (by decide) plain (by decide) (by decide)
    (show Assoc.find? [("name".toList, "full_name".toList)] "name".toList = some "full_name".toList
      from rfl) unmarked
  exact ⟨plain, unmarked, line, compiled.1.mpr line⟩

theorem quoted_lines_lost :
    ¬ ∀ (map : ColumnMap) (key column v : Text), key ≠ [] → Plain key → ':' ∉ key →
      key.head? ≠ some '|' → Assoc.find? map key = some column → Unmarked v →
        compile (some (key ++ ':' :: '"' :: (v ++ ['"']))) map = [.equality column v] := by
  intro all
  have kept := all [("name".toList, "name".toList)] "name".toList "name".toList "a\nb".toList
    (by decide) (by decide) (by decide) (by decide) rfl (by decide)
  revert kept
  decide

end Quoted
end SearchBox
