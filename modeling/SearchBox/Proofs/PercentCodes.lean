import Mathlib.Tactic.SplitIfs
import SearchBox.Text.Percent

/- What comes back of a text that was written in percent codes. The bytes of a character make the same
   character again, and no byte is lost on the way; but a space is written as a plus sign, and who does not
   read a form leaves the plus sign as it is. -/
namespace SearchBox

namespace Utf8
variable {b : Nat} {p : Pending}

theorem start_single (single : b < 0x80) : start b = .inl (.char (Char.ofNat b)) := if_pos single

theorem start_two (low : 0xC2 ≤ b) (high : b ≤ 0xDF) : start b = .inr ⟨[b], 1, 0x80, 0xBF, b - 0xC0⟩ := by
  rw [start, if_neg (by omega), if_pos ⟨low, high⟩]

/-- Characters written too long and surrogates are kept out by the bounds of the second byte. -/
theorem start_three (low : 0xE0 ≤ b) (high : b ≤ 0xEF) :
    start b = .inr ⟨[b], 2, if b = 0xE0 then 0xA0 else 0x80, if b = 0xED then 0x9F else 0xBF, b - 0xE0⟩ := by
  unfold start
  split_ifs <;> first | omega | simp_all

theorem start_four (low : 0xF0 ≤ b) (high : b ≤ 0xF4) :
    start b = .inr ⟨[b], 3, if b = 0xF0 then 0x90 else 0x80, if b = 0xF4 then 0x8F else 0xBF, b - 0xF0⟩ := by
  unfold start
  split_ifs <;> first | omega | simp_all

theorem piecesFrom_single (single : b < 0x80) (rest : List Nat) :
    piecesFrom none (b :: rest) = .char (Char.ofNat b) :: piecesFrom none rest := by
  rw [piecesFrom, start_single single]

theorem piecesFrom_start (begun : start b = .inr p) (rest : List Nat) :
    piecesFrom none (b :: rest) = piecesFrom (some p) rest := by
  rw [piecesFrom, begun]

theorem piecesFrom_next (more : p.missing ≠ 1) (within : p.low ≤ b ∧ b ≤ p.high) (rest : List Nat) :
    piecesFrom (some p) (b :: rest) =
      piecesFrom (some ⟨p.bytes ++ [b], p.missing - 1, 0x80, 0xBF, p.bits * 64 + (b - 0x80)⟩) rest := by
  rw [piecesFrom, if_pos within, if_neg more]

theorem piecesFrom_last {c : Char} (last : p.missing = 1) (within : p.low ≤ b ∧ b ≤ p.high)
    (whole : p.bits * 64 + (b - 0x80) = c.toNat) (rest : List Nat) :
    piecesFrom (some p) (b :: rest) = .char c :: piecesFrom none rest := by
  rw [piecesFrom, if_pos within, if_pos last, whole, Char.ofNat_toNat]

theorem toNat_valid (c : Char) : c.toNat < 0xD800 ∨ 0xDFFF < c.toNat ∧ c.toNat < 0x110000 := c.valid

theorem piecesFrom_encodeChar (c : Char) (rest : List Nat) :
    piecesFrom none (encodeChar c ++ rest) = .char c :: piecesFrom none rest := by
  have valid := toNat_valid c
  unfold encodeChar
  dsimp only
  split_ifs with one two three <;> simp only [List.cons_append, List.nil_append]
  · rw [piecesFrom_single one, Char.ofNat_toNat]
  · rw [piecesFrom_start (start_two (by omega) (by omega))]
    exact piecesFrom_last rfl (by dsimp only; omega) (by dsimp only; omega) rest
  · rw [piecesFrom_start (start_three (by omega) (by omega)),
      piecesFrom_next (by simp) (by dsimp only; split_ifs <;> omega)]
    exact piecesFrom_last rfl (by dsimp only; omega) (by dsimp only; omega) rest
  · rw [piecesFrom_start (start_four (by omega) (by omega)),
      piecesFrom_next (by simp) (by dsimp only; split_ifs <;> omega),
      piecesFrom_next (by simp) (by dsimp only; omega)]
    exact piecesFrom_last rfl (by dsimp only; omega) (by dsimp only; omega) rest

theorem pieces_encode (t : Text) : pieces (encode t) = t.map .char := by
  rw [pieces]
  induction t with
  | nil => rfl
  | cons c rest ih => rw [encode, List.flatMap_cons, piecesFrom_encodeChar, ← encode, ih, List.map_cons]

theorem decodeWith_encode (onBad : List Nat → Text) (t : Text) : decodeWith onBad (encode t) = t := by
  rw [decodeWith, pieces_encode, List.flatMap_map]
  exact List.flatMap_singleton' t

theorem encodeChar_lt (c : Char) : ∀ b ∈ encodeChar c, b < 256 := by
  have valid := toNat_valid c
  unfold encodeChar
  dsimp only
  split_ifs <;> simp only [List.mem_cons, List.not_mem_nil, or_false, forall_eq_or_imp, forall_eq] <;> omega

theorem encodeChar_single {c : Char} (single : c.toNat < 0x80) : encodeChar c = [c.toNat] := if_pos single

theorem encode_concat (t : Text) (c : Char) : encode (t ++ [c]) = encode t ++ encodeChar c := by
  rw [encode, List.flatMap_append, List.flatMap_singleton, encode]

end Utf8

namespace Percent
variable {c : Char} {b : Nat} {onBad : List Nat → Text}

theorem digit_unreserved : ∀ n < 16, isUnreserved (digit n) = true := by decide

theorem hexValue?_digit : ∀ n < 16, hexValue? (digit n) = some n := by decide

theorem unreserved_ascii (plain : isUnreserved c = true) : c.toNat < 128 := by
  unfold isUnreserved at plain
  simp only [Bool.or_eq_true, Bool.and_eq_true, decide_eq_true_eq] at plain
  rcases plain with (((((digits | capitals) | small) | rfl) | rfl) | rfl) | rfl
  · omega
  · omega
  · omega
  all_goals decide

theorem unreserved_ne {mark : Char} (plain : isUnreserved c = true) (other : isUnreserved mark = false) :
    c ≠ mark := by
  rintro rfl
  rw [plain] at other
  exact Bool.noConfusion other

/-- What a text is after it was written in codes and read again by one who takes a plus sign for itself. -/
def enplus (t : Text) : Text := t.map fun c => if c = ' ' then '+' else c

theorem enplus_eq_iff {t : Text} : enplus t = t ↔ ' ' ∉ t := by
  induction t with
  | nil => simp [enplus]
  | cons c t ih =>
    rw [enplus, List.map_cons, ← enplus, List.cons.injEq, ih, List.mem_cons, not_or]
    refine and_congr_left fun _ => ?_
    by_cases blank : c = ' '
    · subst blank
      decide
    · rw [if_neg blank]
      exact iff_of_true rfl (Ne.symm blank)

theorem decodeFrom_ascii (mark : c ≠ '%') (ascii : c.toNat < 128) (bytes : List Nat) (rest : Text) :
    decodeFrom onBad bytes (c :: rest) = decodeFrom onBad (bytes ++ [c.toNat]) rest := by
  rw [decodeFrom, if_pos ascii]
  intro a b rest' same
  exact absurd same mark

theorem decodeFrom_wide (wide : 128 ≤ c.toNat) (bytes : List Nat) (rest : Text) :
    decodeFrom onBad bytes (c :: rest) = Utf8.decodeWith onBad bytes ++ c :: decodeFrom onBad [] rest := by
  rw [decodeFrom, if_neg (by omega)]
  rintro a b rest' rfl
  exact absurd wide (by decide)

theorem decodeFrom_byteCode (byte : b < 256) (bytes : List Nat) (rest : Text) :
    decodeFrom onBad bytes (byteCode b ++ rest) = decodeFrom onBad (bytes ++ [b]) rest := by
  have whole : 16 * (b / 16) + b % 16 = b := Nat.div_add_mod b 16
  rw [byteCode, List.cons_append, List.cons_append, List.cons_append, List.nil_append, decodeFrom,
    hexValue?_digit (b / 16) (by omega), hexValue?_digit (b % 16) (by omega)]
  dsimp only
  rw [whole]

theorem decodeFrom_byteCodes {codes : List Nat} (all : ∀ b ∈ codes, b < 256) (bytes : List Nat) (rest : Text) :
    decodeFrom onBad bytes (codes.flatMap byteCode ++ rest) = decodeFrom onBad (bytes ++ codes) rest := by
  induction codes generalizing bytes with
  | nil => rw [List.flatMap_nil, List.nil_append, List.append_nil]
  | cons b codes ih =>
    have ⟨first, others⟩ := List.forall_mem_cons.mp all
    rw [List.flatMap_cons, List.append_assoc, decodeFrom_byteCode first, ih others, List.append_assoc,
      List.singleton_append]

theorem decodeFrom_encodeChar (c : Char) (bytes : List Nat) (rest : Text) :
    decodeFrom onBad bytes (encodeChar c ++ rest) =
      decodeFrom onBad (bytes ++ Utf8.encode (enplus [c])) rest := by
  rw [encodeChar, enplus, List.map_singleton, Utf8.encode, List.flatMap_singleton]
  split_ifs with plain blank blank
  · rw [blank] at plain
    exact absurd plain (by decide)
  · have ascii := unreserved_ascii plain
    rw [List.singleton_append, decodeFrom_ascii (unreserved_ne plain (by decide)) ascii, Utf8.encodeChar_single ascii]
  · rw [List.singleton_append, decodeFrom_ascii (by decide) (by decide), Utf8.encodeChar_single (by decide)]
  · rw [decodeFrom_byteCodes (Utf8.encodeChar_lt c)]

theorem decodeFrom_encode (t : Text) (bytes : List Nat) :
    decodeFrom onBad bytes (encode t) = Utf8.decodeWith onBad (bytes ++ Utf8.encode (enplus t)) := by
  induction t generalizing bytes with
  | nil =>
    rw [encode, List.flatMap_nil, decodeFrom, enplus, List.map_nil, Utf8.encode, List.flatMap_nil, List.append_nil]
  | cons c t ih =>
    rw [encode, List.flatMap_cons, ← encode, decodeFrom_encodeChar, ih, List.append_assoc]
    simp only [Utf8.encode, enplus, List.map_cons, List.map_nil, List.flatMap_cons, List.flatMap_nil, List.append_nil]

theorem decode_encode (t : Text) : decode (encode t) = enplus t := by
  rw [decode, decodeFrom_encode, List.nil_append, Utf8.decodeWith_encode]

/-- The bytes gathered so far are those of `before`. -/
theorem decodeFrom_plain {t : Text} (noCode : '%' ∉ t) (before : Text) :
    decodeFrom onBad (Utf8.encode before) t = before ++ t := by
  induction t generalizing before with
  | nil => rw [decodeFrom, Utf8.decodeWith_encode, List.append_nil]
  | cons c t ih =>
    have ⟨other, more⟩ := not_or.mp (mt List.mem_cons.mpr noCode)
    by_cases ascii : c.toNat < 128
    · rw [decodeFrom_ascii (Ne.symm other) ascii, ← Utf8.encodeChar_single ascii, ← Utf8.encode_concat, ih more,
        List.append_assoc, List.singleton_append]
    · rw [decodeFrom_wide (by omega), Utf8.decodeWith_encode]
      exact congrArg (before ++ c :: ·) (ih more [])

theorem decode_plain {t : Text} (noCode : '%' ∉ t) : decode t = t := decodeFrom_plain noCode []

theorem mem_byteCode {d : Char} (byte : b < 256) (member : d ∈ byteCode b) : d = '%' ∨ isUnreserved d = true := by
  simp only [byteCode, List.mem_cons, List.not_mem_nil, or_false] at member
  rcases member with rfl | rfl | rfl
  · exact .inl rfl
  · exact .inr (digit_unreserved _ (by omega))
  · exact .inr (digit_unreserved _ (by omega))

theorem mem_encode {t : Text} {d : Char} (member : d ∈ encode t) : d = '%' ∨ d = '+' ∨ isUnreserved d = true := by
  obtain ⟨c, -, inCode⟩ := List.mem_flatMap.mp member
  rw [encodeChar] at inCode
  split_ifs at inCode with plain blank
  · rw [List.mem_singleton.mp inCode]
    exact .inr (.inr plain)
  · exact .inr (.inl (List.mem_singleton.mp inCode))
  · obtain ⟨b, byte, inByte⟩ := List.mem_flatMap.mp inCode
    exact (mem_byteCode (Utf8.encodeChar_lt c b byte) inByte).imp_right .inr

theorem not_mem_encode {mark : Char} (coded : mark ≠ '%' ∧ mark ≠ '+' ∧ isUnreserved mark = false) (t : Text) :
    mark ∉ encode t := by
  intro member
  rcases mem_encode member with code | plus | plain
  · exact coded.1 code
  · exact coded.2.1 plus
  · exact unreserved_ne plain coded.2.2 rfl

end Percent

end SearchBox
