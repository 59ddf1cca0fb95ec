import Mathlib.Algebra.Group.Nat.Defs
import Mathlib.Tactic.SplitIfs
import SearchBox.Operand
import SearchBox.Proofs.TextCuts
import SearchBox.Text.Percent

/- Quoted texts can be told apart, wherever they stand. No character is escaped to the delimiter, and what a
   character is escaped to can be read back without knowing where it ends; so a quoted text ends where it
   says, and two that are different stay different with anything behind them. -/
namespace SearchBox

namespace Quoted

def hexValue (digits : Text) : Nat :=
  digits.foldl (fun n c => 16 * n + (Percent.hexValue? c).getD 0) 0

def decoded (count : Nat) (t : Text) : Option (Char × Text) :=
  some (Char.ofNat (hexValue (t.take count)), t.drop count)

def unescape? : Text → Option (Char × Text)
  | [] | ['\\'] => none
  | '\\' :: 'x' :: rest => decoded 2 rest
  | '\\' :: 'u' :: rest => decoded 4 rest
  | '\\' :: 'U' :: rest => decoded 8 rest
  | '\\' :: 'n' :: rest => some ('\n', rest)
  | '\\' :: 'r' :: rest => some ('\r', rest)
  | '\\' :: 't' :: rest => some ('\t', rest)
  | '\\' :: c :: rest => some (c, rest)
  | c :: rest => some (c, rest)

theorem hexValue?_digitChar : ∀ n < 16, Percent.hexValue? (Nat.digitChar n) = some n := by decide

theorem length_hex (count n : Nat) : (hex count n).length = count := by
  induction count generalizing n with
  | zero => rfl
  | succ count ih => rw [hex, List.length_append, ih, List.length_singleton]

theorem hexValue_concat (digits : Text) (c : Char) :
    hexValue (digits ++ [c]) = 16 * hexValue digits + (Percent.hexValue? c).getD 0 := by
  simp only [hexValue, List.foldl_append, List.foldl_cons, List.foldl_nil]

theorem hexValue_hex (count n : Nat) : hexValue (hex count n) = n % 16 ^ count := by
  induction count generalizing n with
  | zero => exact (Nat.mod_one n).symm
  | succ count ih =>
    have last := hexValue?_digitChar (n % 16) (Nat.mod_lt n (by decide))
    rw [hex, hexValue_concat, ih, last, Option.getD_some, Nat.pow_succ', Nat.mod_mul, Nat.add_comm]

theorem decoded_hex (count : Nat) {c : Char} (fits : c.toNat < 16 ^ count) (rest : Text) :
    decoded count (hex count c.toNat ++ rest) = some (c, rest) := by
  rw [decoded, List.take_left' (length_hex count _), List.drop_left' (length_hex count _), hexValue_hex,
    Nat.mod_eq_of_lt fits, Char.ofNat_toNat]

theorem unescape?_code (c : Char) (rest : Text) : unescape? (code c ++ rest) = some (c, rest) := by
  unfold code
  dsimp only
  split_ifs with short middle
  · exact decoded_hex 2 short rest
  · exact decoded_hex 4 middle rest
  · exact decoded_hex 8 c.val.toNat_lt rest

theorem unescape?_plain {c : Char} (plain : c ≠ '\\') (rest : Text) :
    unescape? (c :: rest) = some (c, rest) := by
  unfold unescape?
  split <;> simp_all

variable {d : Char} (quote : d = '\'' ∨ d = '"')
include quote

theorem unescape?_escape (c : Char) (rest : Text) : unescape? (escape d c ++ rest) = some (c, rest) := by
  unfold escape
  split_ifs with marked feed carriage tab visible
  · rcases marked with rfl | rfl
    · rcases quote with rfl | rfl <;> rfl
    · rfl
  · rw [feed]
    rfl
  · rw [carriage]
    rfl
  · rw [tab]
    rfl
  · exact unescape?_plain (fun same => marked (Or.inr same)) rest
  · exact unescape?_code c rest

theorem escape_append_inj {a b : Char} {r s : Text} (same : escape d a ++ r = escape d b ++ s) :
    a = b ∧ r = s := by
  have read := congrArg unescape? same
  rw [unescape?_escape quote, unescape?_escape quote] at read
  cases read
  exact ⟨rfl, rfl⟩

/-- The delimiter ends the text, since it never begins what a character is escaped to. -/
theorem escape_append_ne (a : Char) (r s : Text) : escape d a ++ r ≠ d :: s := by
  intro same
  have noSlash : d ≠ '\\' := by rcases quote with rfl | rfl <;> decide
  have read := congrArg unescape? same
  rw [unescape?_escape quote, unescape?_plain noSlash] at read
  cases read
  have marked : '\\' :: d :: r = d :: r := by rwa [escape, if_pos (Or.inl rfl)] at same
  exact noSlash (List.cons.inj marked).1.symm

theorem escaped_inj {s t r u : Text}
    (same : s.flatMap (escape d) ++ d :: r = t.flatMap (escape d) ++ d :: u) : s = t ∧ r = u := by
  induction s generalizing t with
  | nil =>
    cases t with
    | nil =>
      cases same
      exact ⟨rfl, rfl⟩
    | cons b t =>
      rw [List.flatMap_cons, List.append_assoc] at same
      exact absurd same.symm (escape_append_ne quote b _ r)
  | cons a s ih =>
    cases t with
    | nil =>
      rw [List.flatMap_cons, List.append_assoc] at same
      exact absurd same (escape_append_ne quote a _ u)
    | cons b t =>
      rw [List.flatMap_cons, List.flatMap_cons, List.append_assoc, List.append_assoc] at same
      obtain ⟨rfl, tails⟩ := escape_append_inj quote same
      obtain ⟨rfl, rest⟩ := ih tails
      exact ⟨rfl, rest⟩

omit quote

theorem delimiter_quote (t : Text) : delimiter t = '\'' ∨ delimiter t = '"' := by
  unfold delimiter
  split
  · exact Or.inr rfl
  · exact Or.inl rfl

/-- A quoted text says where it ends, whatever stands behind it. -/
theorem encode_append_inj {s t r u : Text} (same : encode s ++ r = encode t ++ u) : s = t ∧ r = u := by
  simp only [encode, List.cons_append, List.append_assoc] at same
  obtain ⟨delimiters, same⟩ := List.cons.inj same
  rw [← delimiters] at same
  exact escaped_inj (delimiter_quote s) same

end Quoted

namespace Operand

def Spelled : Operand → Prop
  | .null | .text _ => True
  | .int _ | .list _ => False

def words (v : Operand) : Text := v.written?.getD []

variable {a b : Operand} {r u : Text}

theorem Spelled.written? (spelled : a.Spelled) : a.written? = some a.words := by
  cases a with
  | null | text => rfl
  | int | list => exact absurd spelled id

theorem writtenItems?_spelled {items : List Operand} (spelled : ∀ v ∈ items, v.Spelled) :
    writtenItems? items = some (items.map words) := by
  induction items with
  | nil => rfl
  | cons v rest ih =>
    obtain ⟨first, others⟩ := List.forall_mem_cons.mp spelled
    rw [writtenItems?, first.written?, ih others]
    rfl

theorem Spelled.words_head (spelled : a.Spelled) :
    ∃ c rest, a.words = c :: rest ∧ c ∈ ['N', '\'', '"'] := by
  cases a with
  | null => exact ⟨'N', _, rfl, List.mem_cons_self⟩
  | text t =>
    refine ⟨Quoted.delimiter t, _, rfl, ?_⟩
    rcases Quoted.delimiter_quote t with same | same <;> simp [same]
  | int | list => exact absurd spelled id

theorem null_append_ne_text (t : Text) : words .null ++ r ≠ words (.text t) ++ u := by
  intro same
  have first : 'N' = Quoted.delimiter t := (List.cons.inj same).1
  rcases Quoted.delimiter_quote t with quote | quote <;> simp [quote] at first

theorem Spelled.words_append_inj (first : a.Spelled) (second : b.Spelled)
    (same : a.words ++ r = b.words ++ u) : a = b ∧ r = u := by
  cases a with
  | null =>
    cases b with
    | null => exact ⟨rfl, List.append_cancel_left same⟩
    | text t => exact absurd same (null_append_ne_text t)
    | int | list => exact absurd second id
  | text s =>
    cases b with
    | null => exact absurd same.symm (null_append_ne_text s)
    | text t =>
      obtain ⟨rfl, rest⟩ := Quoted.encode_append_inj same
      exact ⟨rfl, rest⟩
    | int | list => exact absurd second id
  | int | list => exact absurd first id

theorem Spelled.words_inj (first : a.Spelled) (second : b.Spelled) (same : a.words = b.words) : a = b :=
  (first.words_append_inj second (congrArg (· ++ []) same)).1

def closedItems (items : List Operand) : Text := Text.join ", ".toList (items.map words) ++ [']']

theorem closedItems_single (a : Operand) : closedItems [a] = a.words ++ [']'] := rfl

theorem closedItems_cons (a b : Operand) (rest : List Operand) :
    closedItems (a :: b :: rest) = a.words ++ (", ".toList ++ closedItems (b :: rest)) := by
  simp only [closedItems, List.map_cons, Text.join_cons_cons, List.append_assoc]

theorem Spelled.closedItems_ne_nil (spelled : a.Spelled) (rest : List Operand) :
    closedItems (a :: rest) ≠ closedItems [] := by
  intro same
  obtain ⟨c, tail, shown, member⟩ := spelled.words_head
  have first : (closedItems (a :: rest)).head? = some c := by
    cases rest with
    | nil => rw [closedItems_single, shown, List.cons_append, List.head?_cons]
    | cons b rest => rw [closedItems_cons, shown, List.cons_append, List.head?_cons]
  rw [same] at first
  cases first
  simp at member

theorem closedItems_inj {as bs : List Operand} (first : ∀ v ∈ as, v.Spelled) (second : ∀ v ∈ bs, v.Spelled)
    (same : closedItems as = closedItems bs) : as = bs := by
  induction as generalizing bs with
  | nil =>
    cases bs with
    | nil => rfl
    | cons b bs => exact absurd same.symm ((second b List.mem_cons_self).closedItems_ne_nil bs)
  | cons a as ih =>
    obtain ⟨spelled, others⟩ := List.forall_mem_cons.mp first
    cases bs with
    | nil => exact absurd same (spelled.closedItems_ne_nil as)
    | cons b bs =>
      obtain ⟨again, more⟩ := List.forall_mem_cons.mp second
      cases as with
      | nil =>
        cases bs with
        | nil =>
          obtain ⟨rfl, _⟩ := spelled.words_append_inj again same
          rfl
        | cons d bs =>
          rw [closedItems_single, closedItems_cons] at same
          have rest := (spelled.words_append_inj again same).2
          simp at rest
      | cons e as =>
        cases bs with
        | nil =>
          rw [closedItems_single, closedItems_cons] at same
          have rest := (spelled.words_append_inj again same).2
          simp at rest
        | cons d bs =>
          rw [closedItems_cons, closedItems_cons] at same
          obtain ⟨rfl, rest⟩ := spelled.words_append_inj again same
          have tails : e :: as = d :: bs := ih others more (List.append_cancel_left rest)
          rw [tails]

def bracketed (items : List Operand) : Text := '[' :: closedItems items

theorem written?_list {items : List Operand} (spelled : ∀ v ∈ items, v.Spelled) :
    (Operand.list items).written? = some (bracketed items) := by
  rw [Operand.written?, writtenItems?_spelled spelled]
  rfl

theorem bracketed_inj {as bs : List Operand} (first : ∀ v ∈ as, v.Spelled) (second : ∀ v ∈ bs, v.Spelled)
    (same : bracketed as = bracketed bs) : as = bs :=
  closedItems_inj first second (List.cons.inj same).2

end Operand
end SearchBox
