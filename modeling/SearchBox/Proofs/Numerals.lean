import Mathlib.Data.List.TakeWhile
import Mathlib.Data.Nat.Digits.Defs
import SearchBox.Fault
import SearchBox.Proofs.TrimmedText

/- Reading a text that is made of digits. The digits of such a text are looked for between blanks of any
   sort and among digits of any sort; a number is read with decimal digits only, not too many of them, and
   not past the separators, which count as blanks elsewhere. -/
namespace SearchBox
variable {t : Text}

/-- Texts that have nothing but digits between their blanks. -/
def MadeOfDigits (t : Text) : Prop := t.trim ≠ [] ∧ ∀ c ∈ t.trim, isDigit c = true

instance (t : Text) : Decidable (MadeOfDigits t) :=
  have := List.decidableBAll (fun c => isDigit c = true) t.trim
  inferInstanceAs (Decidable (_ ∧ _))

def isSeparator (c : Char) : Bool := 28 ≤ c.toNat && c.toNat ≤ 31

/-- The number that has the digits of `t`, the last of them counting ones. -/
def Denotes (t : Text) (n : Nat) : Prop :=
  ∃ ds : List Nat, t.map decimalValue? = ds.map some ∧ (∀ d ∈ ds, d < 10) ∧ n = Nat.ofDigits 10 ds.reverse

theorem mem_dropWhile {α : Type} {p : α → Bool} {a : α} {as : List α} (member : a ∈ as)
    (stops : p a = false) : a ∈ as.dropWhile p := by
  rw [← List.takeWhile_append_dropWhile (p := p) (l := as)] at member
  rcases List.mem_append.mp member with taken | dropped
  · have passes : p a = true := List.mem_takeWhile_imp taken
    rw [stops] at passes
    cases passes
  · exact dropped

theorem dropWhile_congr {α : Type} {p q : α → Bool} {as : List α} (same : ∀ a ∈ as, p a = q a) :
    as.dropWhile p = as.dropWhile q := by
  induction as with
  | nil => rfl
  | cons a rest ih =>
    have here := same a List.mem_cons_self
    have others := ih fun b member => same b (List.mem_cons_of_mem a member)
    simp only [List.dropWhile_cons, here, others]

theorem mem_stripped {p : Char → Bool} {c : Char} (member : c ∈ t) (stops : p c = false) :
    c ∈ ((t.dropWhile p).reverse.dropWhile p).reverse := by
  have front := mem_dropWhile member stops
  exact List.mem_reverse.mpr (mem_dropWhile (List.mem_reverse.mpr front) stops)

theorem mem_of_mem_stripped {p : Char → Bool} {c : Char}
    (member : c ∈ ((t.dropWhile p).reverse.dropWhile p).reverse) : c ∈ t := by
  have front := List.dropWhile_subset _ (List.mem_reverse.mp member)
  exact List.dropWhile_subset _ (List.mem_reverse.mp front)

section Decimals

theorem decimalValue?_lt {c : Char} {d : Nat} (value : decimalValue? c = some d) : d < 10 := by
  unfold decimalValue? at value
  split at value
  · split at value
    · cases value
      omega
    · cases value
  · obtain ⟨first, found, rfl⟩ := Option.map_eq_some_iff.mp value
    have within := List.find?_some found
    simp only [Bool.and_eq_true, decide_eq_true_eq] at within
    omega

theorem map_decimalValue? (decimal : ∀ c ∈ t, isDecimal c = true) :
    t.map decimalValue? = (t.filterMap decimalValue?).map some := by
  induction t with
  | nil => rfl
  | cons c rest ih =>
    obtain ⟨d, value⟩ := Option.isSome_iff_exists.mp (decimal c List.mem_cons_self)
    have others := ih fun b member => decimal b (List.mem_cons_of_mem c member)
    simp [value, others]

theorem length_decimals (decimal : ∀ c ∈ t, isDecimal c = true) :
    (t.filterMap decimalValue?).length = t.length := by
  have lengths := congrArg List.length (map_decimalValue? decimal)
  simpa using lengths.symm

theorem digitsValue_eq (ds : List Nat) : digitsValue ds = Nat.ofDigits 10 ds.reverse := by
  rw [Nat.ofDigits_eq_foldr, List.foldr_reverse, digitsValue]
  congr 1
  funext value d
  simp only [Nat.cast_id]
  omega

theorem denotes_iff (decimal : ∀ c ∈ t, isDecimal c = true) {n : Nat} :
    Denotes t n ↔ n = digitsValue (t.filterMap decimalValue?) := by
  have values := map_decimalValue? decimal
  constructor
  · rintro ⟨ds, same, _, rfl⟩
    rw [values] at same
    have digits : t.filterMap decimalValue? = ds := (List.map_inj_right fun _ _ => Option.some.inj).mp same
    rw [digitsValue_eq, digits]
  · rintro rfl
    refine ⟨t.filterMap decimalValue?, values, ?_, digitsValue_eq _⟩
    intro d member
    obtain ⟨c, _, value⟩ := List.mem_filterMap.mp member
    exact decimalValue?_lt value

theorem isDecimal_of_isSeparator {c : Char} (separator : isSeparator c = true) : isDecimal c = false := by
  simp only [isSeparator, Bool.and_eq_true, decide_eq_true_eq] at separator
  rw [isDecimal, decimalValue?, if_pos (by omega), if_neg (by omega)]
  rfl

end Decimals

namespace Integer

theorem leadingDigits?_eq (noJoint : '_' ∉ t) (afterDigit : Bool) :
    leadingDigits? afterDigit t =
      some ((t.takeWhile isDecimal).filterMap decimalValue?, t.dropWhile isDecimal) := by
  induction t generalizing afterDigit with
  | nil => rfl
  | cons c rest ih =>
    rw [leadingDigits?]
    cases value : decimalValue? c with
    | some d =>
      have decimal : isDecimal c = true := by simp [isDecimal, value]
      have others := ih (fun member => noJoint (List.mem_cons_of_mem c member)) true
      simp [others, decimal, value]
    | none =>
      have other : isDecimal c = false := by simp [isDecimal, value]
      have noUnderscore : c ≠ '_' := fun same => noJoint (by simp [same])
      simp [noUnderscore, other]

theorem magnitude_eq (noJoint : '_' ∉ t) :
    magnitude t =
      if digitLimit < (t.takeWhile isDecimal).length then
        .error (.tooLong (t.takeWhile isDecimal).length)
      else if t.takeWhile isDecimal = [] ∨ t.dropWhile isDecimal ≠ [] then .error .malformed
      else .ok (digitsValue ((t.takeWhile isDecimal).filterMap decimalValue?)) := by
  have decimal : ∀ c ∈ t.takeWhile isDecimal, isDecimal c = true := fun c => List.mem_takeWhile_imp
  have none : (t.takeWhile isDecimal).filterMap decimalValue? = [] ↔ t.takeWhile isDecimal = [] := by
    rw [← List.length_eq_zero_iff, length_decimals decimal, List.length_eq_zero_iff]
  rw [magnitude, leadingDigits?_eq noJoint]
  simp only [length_decimals decimal, none]

theorem read_unsigned {x : Text} (unpadded : unpad t = x) (noMinus : '-' ∉ x) (noPlus : '+' ∉ x) :
    read t = (magnitude x).map Int.ofNat := by
  rw [read, unpadded]
  split
  · simp at noMinus
  · simp at noPlus
  · rfl

theorem unpad_eq_trim (bare : ∀ c ∈ t, isSeparator c = false) : unpad t = t.trim := by
  have same : ∀ c ∈ t, isPadding c = isBlank c := by
    intro c member
    have other := bare c member
    simp only [isSeparator, Bool.and_eq_false_iff, decide_eq_false_iff_not] at other
    simp only [isPadding]
    grind
  have front := dropWhile_congr same
  have back : ∀ c ∈ (t.dropWhile isBlank).reverse, isPadding c = isBlank c := fun c member =>
    same c (List.dropWhile_subset _ (List.mem_reverse.mp member))
  rw [unpad, front, dropWhile_congr back]
  rfl

/-- When a text that is made of digits can be read. -/
structure Readable (t : Text) : Prop where
  bare : ∀ c ∈ t, isSeparator c = false
  decimal : ∀ c ∈ t.trim, isDecimal c = true
  short : t.trim.length ≤ digitLimit

instance (t : Text) : Decidable (Readable t) :=
  have := List.decidableBAll (fun c => isSeparator c = false) t
  have := List.decidableBAll (fun c => isDecimal c = true) t.trim
  decidable_of_iff
    ((∀ c ∈ t, isSeparator c = false) ∧ (∀ c ∈ t.trim, isDecimal c = true) ∧ t.trim.length ≤ digitLimit)
    ⟨fun all => ⟨all.1, all.2.1, all.2.2⟩, fun readable => ⟨readable.bare, readable.decimal, readable.short⟩⟩

theorem bare_of_decimal (decimal : ∀ c ∈ unpad t, isDecimal c = true) : ∀ c ∈ t, isSeparator c = false := by
  intro c member
  by_contra separator
  rw [Bool.not_eq_false] at separator
  have kept : isPadding c = false := by
    simp only [isSeparator] at separator
    simp [isPadding, separator]
  have read := decimal c (mem_stripped member kept)
  rw [isDecimal_of_isSeparator separator] at read
  cases read

theorem readable_iff :
    Readable t ↔ (∀ c ∈ unpad t, isDecimal c = true) ∧
      ((unpad t).takeWhile isDecimal).length ≤ digitLimit := by
  constructor
  · intro readable
    have whole := List.takeWhile_eq_self_iff.mpr readable.decimal
    rw [unpad_eq_trim readable.bare, whole]
    exact ⟨readable.decimal, readable.short⟩
  · rintro ⟨decimal, short⟩
    have bare := bare_of_decimal decimal
    rw [unpad_eq_trim bare] at decimal short
    rw [List.takeWhile_eq_self_iff.mpr decimal] at short
    exact ⟨bare, decimal, short⟩

section Digits
variable (digits : MadeOfDigits t)
include digits

theorem isBlank_or_isDigit {c : Char} (member : c ∈ t) : isBlank c = true ∨ isDigit c = true := by
  cases dark : isBlank c with
  | true => exact Or.inl rfl
  | false => exact Or.inr (digits.2 c (mem_stripped member dark))

theorem not_mem_of_digits {c : Char} (dark : isBlank c = false) (other : isDigit c = false) :
    c ∉ unpad t := by
  intro member
  rcases isBlank_or_isDigit digits (mem_of_mem_stripped member) with light | digit
  · simp [dark] at light
  · simp [other] at digit

theorem unpad_ne_nil : unpad t ≠ [] := by
  obtain ⟨c, rest, split⟩ := List.exists_cons_of_ne_nil digits.1
  have dark : isBlank c = false := Text.trim_startsDark t c (by rw [split]; rfl)
  have inside : c ∈ t := mem_of_mem_stripped (p := isBlank) (by
    change c ∈ t.trim
    simp [split])
  have kept : isPadding c = false := by simp [isPadding, dark]
  exact List.ne_nil_of_mem (mem_stripped inside kept)

theorem read_of_digits :
    read t =
      if digitLimit < ((unpad t).takeWhile isDecimal).length then
        .error (.tooLong ((unpad t).takeWhile isDecimal).length)
      else if (unpad t).all isDecimal then
        .ok (digitsValue ((unpad t).filterMap decimalValue?))
      else .error .malformed := by
  have noJoint : '_' ∉ unpad t := not_mem_of_digits digits (by decide) (by decide)
  have noMinus : '-' ∉ unpad t := not_mem_of_digits digits (by decide) (by decide)
  have noPlus : '+' ∉ unpad t := not_mem_of_digits digits (by decide) (by decide)
  rw [read_unsigned rfl noMinus noPlus, magnitude_eq noJoint]
  -- too many digits are noticed before what stands behind them
  by_cases long : digitLimit < ((unpad t).takeWhile isDecimal).length
  · rw [if_pos long, if_pos long]
    rfl
  · rw [if_neg long, if_neg long]
    by_cases decimal : (unpad t).all isDecimal = true
    · have each := List.all_eq_true.mp decimal
      have all : (unpad t).takeWhile isDecimal = unpad t := List.takeWhile_eq_self_iff.mpr each
      have none : (unpad t).dropWhile isDecimal = [] := List.dropWhile_eq_nil_iff.mpr each
      rw [if_pos decimal, all, none, if_neg (by simp [unpad_ne_nil digits])]
      rfl
    · have some : (unpad t).dropWhile isDecimal ≠ [] := fun none =>
        decimal (List.all_eq_true.mpr (List.dropWhile_eq_nil_iff.mp none))
      rw [if_neg decimal, if_pos (Or.inr some)]
      rfl

theorem read_ok_iff (n : Int) : read t = .ok n ↔ Readable t ∧ ∃ m, Denotes t.trim m ∧ n = m := by
  constructor
  · intro read
    rw [read_of_digits digits] at read
    split at read
    · cases read
    · rename_i short
      split at read
      · rename_i decimal
        have readable := readable_iff.mpr ⟨List.all_eq_true.mp decimal, Nat.le_of_not_lt short⟩
        refine ⟨readable, _, (denotes_iff readable.decimal).mpr rfl, ?_⟩
        rw [unpad_eq_trim readable.bare] at read
        exact (Except.ok.inj read).symm
      · cases read
  · rintro ⟨readable, m, value, rfl⟩
    obtain ⟨decimal, short⟩ := readable_iff.mp readable
    rw [read_of_digits digits, if_neg (Nat.not_lt.mpr short), if_pos (List.all_eq_true.mpr decimal),
      unpad_eq_trim readable.bare, (denotes_iff readable.decimal).mp value]

theorem read_error (unreadable : ¬ Readable t) :
    read t = .error .malformed ∨ ∃ count, digitLimit < count ∧ read t = .error (.tooLong count) := by
  rw [read_of_digits digits]
  split
  · rename_i long
    exact Or.inr ⟨_, long, rfl⟩
  · rename_i short
    refine Or.inl (if_neg ?_)
    intro decimal
    exact unreadable (readable_iff.mpr ⟨List.all_eq_true.mp decimal, Nat.le_of_not_lt short⟩)

end Digits
end Integer
end SearchBox
