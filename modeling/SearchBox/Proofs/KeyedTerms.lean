import SearchBox.Proofs.CompiledForm
import SearchBox.Proofs.SearchKeys
import SearchBox.Proofs.TokenLists

/- Searches that ask for one column in several terms, and searches for words. A word has no character that any
   shape of a condition goes by, so alone it is compared with the column, and in a list it is an item. -/
namespace SearchBox
open Text Token Shape

def SearchTerm.written (key : Text) (t : SearchTerm) : Text := headOf key t.isOr ++ ':' :: t.condition

section Keyed
variable {map : ColumnMap} {key column : Text}

theorem parse?_keyed (addressable : Addressable key) (known : map.resolve key = some column)
    {t : SearchTerm} (own : t.column = column) : SearchTerm.parse? map (t.written key) = some t := by
  obtain ⟨noColon, bare, _⟩ := addressable
  obtain ⟨filled, found⟩ := ColumnMap.resolve_iff.mp known
  have reads : SearchTerm.Reads map (t.written key) key t := ⟨rfl, filled, noColon, fun _ => bare, own ▸ found⟩
  exact reads.parsed

theorem solid_written (addressable : Addressable key) {t : SearchTerm} (plain : Plain t.condition) :
    Solid (t.written key) [] := by
  rw [SearchTerm.written, solid_term plain, SearchTerm.headOf]
  split
  · exact (solid_cons_dark (by decide)).mpr addressable.2.2
  · exact addressable.2.2

theorem quoteCount_written (balanced : quoteCount key % 2 = 0) {t : SearchTerm}
    (plain : Plain t.condition) : quoteCount (t.written key) % 2 = 0 := by
  have head : quoteCount (SearchTerm.headOf key t.isOr) = quoteCount key := by
    unfold SearchTerm.headOf
    split <;> simp [quoteCount]
  have behind := quoteCount_term plain
  rw [SearchTerm.written, quoteCount_append, head]
  omega

section Terms
variable {terms : List SearchTerm} (addressable : Addressable key)
  (own : ∀ t ∈ terms, t.column = column ∧ Plain t.condition)
include addressable own

/-- Every term has its own quotes in pairs, so none of them protects a blank between two terms. -/
theorem separable_written (balanced : quoteCount key % 2 = 0) :
    Separable (terms.map (SearchTerm.written key)) := by
  have solid : ∀ t ∈ terms, Solid (t.written key) [] := fun t member =>
    solid_written addressable (own t member).2
  have even : ∀ t ∈ terms, quoteCount (t.written key) % 2 = 0 := fun t member =>
    quoteCount_written balanced (own t member).2
  exact {
    nonempty := List.forall_mem_map.mpr fun t _ => by simp [SearchTerm.written]
    start := List.forall_mem_map.mpr fun t member => startsDark_of_solid (solid t member) (even t member)
    finish := List.forall_mem_map.mpr fun t member => endsDark_of_solid (solid t member)
    solid := List.forall_mem_map.mpr solid
    balanced := fun token member =>
      (List.forall_mem_map (P := fun t => quoteCount t % 2 = 0)).mpr even token
        (List.mem_of_mem_tail member) }

theorem parseAll_written (known : map.resolve key = some column) :
    SearchTerm.parseAll map (terms.map (SearchTerm.written key)) = terms := by
  induction terms with
  | nil => rfl
  | cons t rest ih =>
    obtain ⟨first, others⟩ := List.forall_mem_cons.mp own
    have tail := ih others
    rw [SearchTerm.parseAll] at tail ⊢
    rw [List.map_cons, List.filterMap_cons, parse?_keyed addressable known first.1]
    exact congrArg (t :: ·) tail

theorem compile_keyed (balanced : quoteCount key % 2 = 0) (known : map.resolve key = some column) :
    compile (some (join [' '] (terms.map (SearchTerm.written key)))) map =
      terms.map SearchTerm.classify := by
  rw [compile, Option.getD_some, tokenize_join_separable (separable_written addressable own balanced),
    parseAll_written addressable own known]

end Terms
end Keyed

/-- Words of letters and digits of the Latin alphabet. The null word is one of them. -/
def IsWord (w : Text) : Prop := w ≠ [] ∧ ∀ c ∈ w, c.isAlphanum = true

instance (w : Text) : Decidable (IsWord w) :=
  have : Decidable (∀ c ∈ w, c.isAlphanum = true) := List.decidableBAll (fun c => c.isAlphanum = true) w
  inferInstanceAs (Decidable (_ ∧ _))

section Words
variable {w : Text}

def signs : List Char := marks ++ "<>!=".toList

theorem isAlphanum_plain {c : Char} (letter : c.isAlphanum = true) : isBlank c = false ∧ c ∉ signs := by
  have ascii : c.toNat < 128 := by
    delta Char.isAlphanum Char.isAlpha Char.isUpper Char.isLower Char.isDigit at letter
    simp only [Bool.or_eq_true, Bool.and_eq_true, decide_eq_true_eq, ge_iff_le,
      UInt32.le_iff_toNat_le] at letter
    have value : c.val.toNat = c.toNat := rfl
    have last : 'z'.val.toNat = 122 := rfl
    have capital : 'Z'.val.toNat = 90 := rfl
    have nine : '9'.val.toNat = 57 := rfl
    omega
  have table : ∀ n < 128, (Char.ofNat n).isAlphanum = true →
      isBlank (Char.ofNat n) = false ∧ Char.ofNat n ∉ signs := by decide
  have here := table c.toNat ascii
  rw [Char.ofNat_toNat] at here
  exact here letter

theorem IsWord.absent (word : IsWord w) {c : Char} (sign : c ∈ signs) : c ∉ w := fun member =>
  (isAlphanum_plain (word.2 c member)).2 sign

theorem IsWord.plain (word : IsWord w) : Plain w := by
  intro c member
  obtain ⟨dark, noSign⟩ := isAlphanum_plain (word.2 c member)
  refine ⟨dark, ?_⟩
  rintro rfl
  exact noSign (by decide)

theorem IsWord.writtenValue (word : IsWord w) : WrittenValue (.ofItem w) w := by
  rw [Operand.ofItem]
  split
  · rename_i null
    rw [null]
    exact .null
  · rename_i other
    exact .text word.plain other

theorem IsWord.noDatePart (word : IsWord w) : ¬ HasDatePart w := by
  rintro ⟨part, found⟩
  exact word.absent (by decide : ',' ∈ signs) (found.subset (by simp))

theorem IsWord.not_operator (word : IsWord w) : ∀ op ∈ operators, ¬ op <+: w := by
  intro op known opens
  have signed : ∀ op ∈ operators, op.any (· ∈ signs) = true := by decide
  obtain ⟨c, member, sign⟩ := List.any_eq_true.mp (signed op known)
  exact word.absent (of_decide_eq_true sign) (opens.subset member)

def wordOperator (negated : Bool) : Text := if negated then "!=".toList else []

theorem classify_word (column : Text) (isOr negated : Bool) (word : IsWord w) :
    SearchTerm.classify ⟨column, wordOperator negated ++ w, isOr⟩ =
      { column, kind := .basic, operands := [.ofItem w], isOr,
        comparator := some (if negated then "!=".toList else ['=']) } := by
  have known : wordOperator negated ∈ comparisons := by cases negated <;> decide
  have longest : ∀ other ∈ operators, (wordOperator negated).length < other.length →
      ¬ other <+: wordOperator negated ++ w := by
    cases negated with
    | false => exact fun other member _ => word.not_operator other member
    | true =>
      have short : ∀ other ∈ operators, ¬ (wordOperator true).length < other.length := by decide
      exact fun other member longer => absurd longer (short other member)
  have asked := Written.compare column isOr known word.writtenValue longest
    (not_encloses_of_absent (word.absent (by decide))) (not_encloses_of_absent (word.absent (by decide)))
    word.noDatePart (not_encloses_of_absent (word.absent (by decide)))
    (not_encloses_of_absent (word.absent (by decide)))
  rw [classify_written asked]
  cases negated <;> rfl

def setCondition (negated : Bool) (words : List Text) : Text :=
  (if negated then ['!'] else []) ++ '(' :: (join [','] words ++ [')'])

section Sets
variable {words : List Text}

theorem writtenItems (spelled : ∀ w ∈ words, IsWord w) :
    List.Forall₂ WrittenItem (words.map Operand.ofItem) words := by
  rw [List.forall₂_map_left_iff, List.forall₂_same]
  exact fun w member => ⟨(spelled w member).writtenValue, (spelled w member).absent (by decide)⟩

theorem classify_wordSet (column : Text) (negated : Bool) (some : words ≠ [])
    (spelled : ∀ w ∈ words, IsWord w) :
    SearchTerm.classify ⟨column, setCondition negated words, false⟩ =
      { column, kind := if negated then .notIn else .isIn, operands := words.map Operand.ofItem } := by
  have filled : words.map Operand.ofItem ≠ [.text []] := by
    intro blank
    obtain ⟨w, rfl, empty⟩ := List.map_eq_singleton_iff.mp blank
    have word := spelled w (List.mem_singleton_self w)
    exact word.1 (ofItem_eq_text empty)
  exact classify_written (Written.set column false negated (by simpa using some) filled (writtenItems spelled))

theorem setCondition_plain (negated : Bool) (spelled : ∀ w ∈ words, IsWord w) :
    Plain (setCondition negated words) := by
  have inner : Plain (join [','] words) := plain_join (by decide) fun w member => (spelled w member).plain
  have bang : Plain (if negated then ['!'] else []) := by cases negated <;> decide
  exact plain_append.mpr ⟨bang, plain_cons.mpr ⟨by decide, plain_append.mpr ⟨inner, by decide⟩⟩⟩

end Sets
end Words
end SearchBox
