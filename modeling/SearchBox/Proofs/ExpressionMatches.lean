import Mathlib.Data.List.Infix
import Mathlib.Data.Nat.Basic
import Mathlib.Data.Option.Basic
import Mathlib.Order.MinMax
import SearchBox.Store.Selection

/- What regular expressions match. An expression goes on from places of the same text, as far behind the place where
   it began as its width allows. A text without marks of its own is an expression for itself: it is found in the
   texts that contain it. -/
namespace SearchBox
namespace Regexp

namespace Width
variable {a b w : Width} {m n least i e : Nat} {extra : Option Nat}

structure Allows (w : Width) (n : Nat) : Prop where
  least : w.least ≤ n
  most : ∀ most, w.most = some most → n ≤ most

theorem allows_any (n : Nat) : any.Allows n := ⟨Nat.zero_le n, nofun⟩

theorem allows_exactly : (exactly m).Allows n ↔ n = m := by
  constructor
  · intro allows
    exact Nat.le_antisymm (allows.most m rfl) allows.least
  · rintro rfl
    exact ⟨Nat.le_refl _, by rintro _ ⟨⟩; exact Nat.le_refl _⟩

theorem Allows.and (first : a.Allows m) (second : b.Allows n) : (a.and b).Allows (m + n) := by
  refine ⟨Nat.add_le_add first.least second.least, fun most bound => ?_⟩
  obtain ⟨i, here, bound⟩ := Option.bind_eq_some_iff.mp bound
  obtain ⟨j, there, ⟨⟩⟩ := Option.bind_eq_some_iff.mp bound
  exact Nat.add_le_add (first.most i here) (second.most j there)

theorem Allows.or (allows : a.Allows n ∨ b.Allows n) : (a.or b).Allows n := by
  refine ⟨min_le_iff.mpr (allows.imp (·.least) (·.least)), fun most bound => ?_⟩
  obtain ⟨i, here, bound⟩ := Option.bind_eq_some_iff.mp bound
  obtain ⟨j, there, ⟨⟩⟩ := Option.bind_eq_some_iff.mp bound
  exact le_max_iff.mpr (allows.imp (·.most i here) (·.most j there))

theorem times_most (inner : w.most = some i) : (w.times least (some e)).most = some (i * (least + e)) := by
  simp only [times, inner, Option.some.injEq]
  split
  · rename_i none
    rcases none with rfl | ⟨rfl, rfl⟩ <;> simp
  · rfl

theorem times_most_empty (inner : w.most = some 0) : (w.times least extra).most = some 0 := by
  simp [times, inner]

/-- What is repeated has a bound if it takes nothing, or if it and the number of times have one. -/
theorem bounded_of_times {k : Nat} (bound : (w.times least extra).most = some k)
    (repeats : ¬(least = 0 ∧ extra = some 0)) :
    w.most = some 0 ∨ ∃ i e, w.most = some i ∧ extra = some e := by
  simp only [times] at bound
  split at bound
  · rename_i none
    exact .inl (none.resolve_right repeats)
  · obtain ⟨i, inner, bound⟩ := Option.bind_eq_some_iff.mp bound
    obtain ⟨e, times, _⟩ := Option.bind_eq_some_iff.mp bound
    exact .inr ⟨i, e, inner, times⟩

theorem allows_times_zero : (w.times 0 extra).Allows 0 := ⟨Nat.le_refl _, fun _ _ => Nat.zero_le _⟩

theorem Allows.times_succ (first : w.Allows m) (others : (w.times least extra).Allows n) :
    (w.times (least + 1) extra).Allows (m + n) := by
  refine ⟨?_, fun most bound => ?_⟩
  · have atLeast : w.least * least ≤ n := others.least
    have one := first.least
    have all : (w.times (least + 1) extra).least = w.least * least + w.least := rfl
    omega
  · rcases bounded_of_times bound (fun none => nomatch none.1) with inner | ⟨i, e, inner, rfl⟩
    · have none := first.most 0 inner
      have noOthers := others.most 0 (times_most_empty inner)
      omega
    · have one := first.most i inner
      have atMost := others.most _ (times_most inner)
      cases (times_most inner).symm.trans bound
      calc
        m + n ≤ i + i * (least + e) := Nat.add_le_add one atMost
        _ = i * (least + 1 + e) := by rw [Nat.add_right_comm, Nat.mul_succ, Nat.add_comm]

theorem Allows.times_extra (first : w.Allows m) (others : (w.times least (extra.map (· - 1))).Allows n)
    (repeats : extra ≠ some 0) : (w.times least extra).Allows (m + n) := by
  refine ⟨Nat.le_trans others.least (Nat.le_add_left n m), fun most bound => ?_⟩
  rcases bounded_of_times bound (fun none => repeats none.2) with inner | ⟨i, e, inner, rfl⟩
  · have none := first.most 0 inner
    have noOthers := others.most 0 (times_most_empty inner)
    omega
  · obtain ⟨e, rfl⟩ := Nat.exists_eq_succ_of_ne_zero (fun zero => repeats (congrArg some zero))
    have one := first.most i inner
    have atMost := others.most _ (times_most inner)
    cases (times_most inner).symm.trans bound
    calc
      m + n ≤ i + i * (least + e) := Nat.add_le_add one atMost
      _ = i * (least + (e + 1)) := by rw [← Nat.add_assoc, Nat.mul_succ, Nat.add_comm]

end Width

namespace Place
variable {p q r : Place} {m n : Nat}

def text (p : Place) : Text := p.before.reverse ++ p.rest

/-- `q` is the place of the same text that is `n` characters behind `p`. The groups do not matter. -/
structure Reaches (n : Nat) (p q : Place) : Prop where
  text : q.text = p.text
  index : q.index = p.index + n

theorem Reaches.refl (p : Place) : p.Reaches 0 p := ⟨rfl, rfl⟩

theorem Reaches.trans (first : Reaches m p q) (second : Reaches n q r) : Reaches (m + n) p r :=
  ⟨second.text.trans first.text, by rw [second.index, first.index, Nat.add_assoc]⟩

theorem pass?_eq_some {holds : Char → Bool} (passed : p.pass? holds = some q) :
    ∃ c rest, p.rest = c :: rest ∧ holds c = true ∧ q = { p with before := c :: p.before, rest } := by
  rw [pass?] at passed
  split at passed
  · cases passed
  · rename_i c rest here
    split at passed
    · rename_i holds
      cases passed
      exact ⟨c, rest, here, holds, rfl⟩
    · cases passed

theorem reaches_pass? {holds : Char → Bool} (passed : p.pass? holds = some q) : Reaches 1 p q := by
  obtain ⟨c, rest, here, _, rfl⟩ := pass?_eq_some passed
  exact ⟨by simp [text, here], rfl⟩

theorem reaches_passAll? {likes : Char → Char → Bool} {t : Text} (passed : passAll? likes t p = some q) :
    Reaches t.length p q := by
  induction t generalizing p with
  | nil =>
    cases passed
    exact .refl _
  | cons c t ih =>
    obtain ⟨behind, first, others⟩ := Option.bind_eq_some_iff.mp passed
    rw [List.length_cons, Nat.add_comm]
    exact (reaches_pass? first).trans (ih others)

theorem index_back? (back : p.back? n = some q) : p.index = q.index + n := by
  rw [back?] at back
  split at back
  · cases back
  · rename_i enough
    cases back
    simp only [index, List.length_drop]
    omega

theorem passAll?_isSome {t : Text} :
    (passAll? (fun a b => a = b) t p).isSome = true ↔ t <+: p.rest := by
  induction t generalizing p with
  | nil => simp [passAll?]
  | cons c t ih =>
    rw [passAll?]
    cases rest : p.rest with
    | nil => simp [pass?, rest]
    | cons d rest =>
      by_cases same : c = d
      · subst same
        simp [pass?, rest, ih]
      · simp [pass?, rest, same, List.cons_prefix_cons]

end Place

/-- Whatever comes behind `inner` goes on from a place that is as far behind as the width allows. -/
def Takes (w : Width) (inner : Rest → Rest) : Prop :=
  ∀ {next : Rest} {p last : Place}, inner next p = some last →
    ∃ n q, w.Allows n ∧ Place.Reaches n p q ∧ next q = some last

section Takes
variable {a b w : Width} {inner : Rest → Rest} {extra : Option Nat}

theorem goes_on_here {next : Rest} {p last : Place} (found : next p = some last) :
    ∃ n q, (Width.exactly 0).Allows n ∧ Place.Reaches n p q ∧ next q = some last :=
  ⟨0, p, Width.allows_exactly.mpr rfl, .refl p, found⟩

theorem takes_both {first second : Rest → Rest} (takes : Takes a first) (behind : Takes b second) :
    Takes (a.and b) fun next => first (second next) := by
  intro next p last found
  obtain ⟨m, q, allowed, reaches, onward⟩ := takes found
  obtain ⟨n, r, further, reachesFurther, goes⟩ := behind onward
  exact ⟨m + n, r, allowed.and further, reaches.trans reachesFurther, goes⟩

theorem takes_either {first second : Rest → Rest} (takesFirst : Takes a first) (takesSecond : Takes b second)
    {next : Rest} {p last : Place} (found : first next p = some last ∨ second next p = some last) :
    ∃ n q, (a.or b).Allows n ∧ Place.Reaches n p q ∧ next q = some last := by
  rcases found with here | there
  · obtain ⟨n, q, allowed, goes⟩ := takesFirst here
    exact ⟨n, q, .or (.inl allowed), goes⟩
  · obtain ⟨n, q, allowed, goes⟩ := takesSecond there
    exact ⟨n, q, .or (.inr allowed), goes⟩

theorem takes_times {rest : Rest → Rest} (takes : Takes w inner) (behind : Takes (w.times 0 extra) rest)
    (least : Nat) : Takes (w.times least extra) fun next => times inner least (rest next) := by
  intro next p last found
  induction least generalizing p with
  | zero => exact behind found
  | succ least ih =>
    obtain ⟨m, q, allowed, reaches, onward⟩ := takes found
    obtain ⟨n, r, further, reachesFurther, goes⟩ := ih onward
    exact ⟨m + n, r, allowed.times_succ further, reaches.trans reachesFurther, goes⟩

/-- The induction is on what is left of the text, as the repetition itself is. -/
theorem takes_more (takes : Takes w inner) (isLazy : Bool) (extra : Option Nat) :
    Takes (w.times 0 extra) fun next => more isLazy inner next extra := by
  intro next p last found
  induction left : p.rest.length using Nat.strong_induction_on generalizing p extra with
  | h _ ih =>
    subst left
    have enough (goes : next p = some last) :
        ∃ n q, (w.times 0 extra).Allows n ∧ Place.Reaches n p q ∧ next q = some last :=
      ⟨0, p, Width.allows_times_zero, .refl p, goes⟩
    dsimp only at found
    rw [more] at found
    split at found
    · exact enough found
    · rename_i repeats
      have again (found : inner (fun q => if q.rest.length < p.rest.length
          then more isLazy inner next (extra.map (· - 1)) q else next q) p = some last) :
          ∃ n q, (w.times 0 extra).Allows n ∧ Place.Reaches n p q ∧ next q = some last := by
        obtain ⟨m, q, allowed, reaches, onward⟩ := takes found
        split at onward
        · rename_i shorter
          obtain ⟨n, r, further, reachesFurther, goes⟩ := ih _ shorter _ onward rfl
          exact ⟨m + n, r, allowed.times_extra further repeats, reaches.trans reachesFurther, goes⟩
        · exact ⟨m, q, allowed.times_extra Width.allows_times_zero repeats, reaches, onward⟩
      split at found
      · rcases (Option.orElse_eq_some _ _ _).mp found with here | ⟨_, further⟩
        · exact enough here
        · exact again further
      · rcases (Option.orElse_eq_some _ _ _).mp found with further | ⟨_, here⟩
        · exact again further
        · exact enough here

theorem takes_alone (takes : Takes w inner) : Takes w fun next p => (inner some p).bind next := by
  intro next p last found
  obtain ⟨q, taken, goes⟩ := Option.bind_eq_some_iff.mp found
  obtain ⟨n, _, allowed, reaches, ⟨⟩⟩ := takes taken
  exact ⟨n, q, allowed, reaches, goes⟩

theorem takes_look {negated : Bool} {seen : Option Place} : Takes (.exactly 0) (look negated seen) := by
  intro next p last found
  cases seen with
  | some q =>
    rw [look] at found
    split at found
    · cases found
    · exact ⟨0, { p with opened := q.opened, closed := q.closed }, Width.allows_exactly.mpr rfl, ⟨rfl, rfl⟩, found⟩
  | none =>
    rw [look] at found
    split at found
    · exact goes_on_here found
    · cases found

end Takes

/-- What stands behind an expression goes on from a place of the same text, as far behind the place where the
    expression began as its width allows. -/
theorem takes_run (r : Regexp) : Takes (r.width []) r.run := by
  intro next p last found
  induction r generalizing next p last with
  | nothing => exact goes_on_here found
  | one chars =>
    obtain ⟨q, passed, goes⟩ := Option.bind_eq_some_iff.mp found
    exact ⟨1, q, Width.allows_exactly.mpr rfl, Place.reaches_pass? passed, goes⟩
  | anchor a =>
    rw [run] at found
    split at found
    · exact goes_on_here found
    · cases found
  | both first second takesFirst takesSecond => exact takes_both takesFirst takesSecond found
  | either first second takesFirst takesSecond =>
    exact takes_either takesFirst takesSecond (((Option.orElse_eq_some _ _ _).mp found).imp_right And.right)
  | capture group inner takes =>
    obtain ⟨n, q, allowed, reaches, goes⟩ := takes found
    exact ⟨n, q.closeGroup group, allowed, ⟨reaches.text, reaches.index⟩, goes⟩
  | again group folding =>
    obtain ⟨taken, _, found⟩ := Option.bind_eq_some_iff.mp found
    obtain ⟨q, passed, goes⟩ := Option.bind_eq_some_iff.mp found
    exact ⟨taken.length, q, Width.allows_any _, Place.reaches_passAll? passed, goes⟩
  | repeated greed least extra inner takes =>
    cases greed with
    | possessive =>
      exact takes_alone (takes_times (takes_alone takes) (takes_more (takes_alone takes) false extra) least) found
    | greedy | lazy => exact takes_times takes (takes_more takes _ extra) least found
  | ahead negated inner _ | behind negated width inner _ => exact takes_look found
  | atomic inner takes => exact takes_alone takes found
  | ifGroup group taken missing takesTaken takesMissing =>
    rw [run] at found
    split at found
    · exact takes_either takesTaken takesMissing (.inl found)
    · exact takes_either takesTaken takesMissing (.inr found)

/-- An expression of one length that is looked for that many characters before a place ends at that place. -/
theorem index_of_behind {inner : Regexp} {n : Nat} (fixed : inner.width [] = .exactly n) {p q r : Place}
    (back : p.back? n = some q) (found : inner.run some q = some r) : r.index = p.index := by
  obtain ⟨m, _, allowed, reaches, ⟨⟩⟩ := takes_run inner found
  rw [fixed, Width.allows_exactly] at allowed
  rw [reaches.index, allowed, Place.index_back? back]

section Literal
variable {t : Text}

/-- The marks that have a meaning of their own. A bracket or brace that closes what was not opened has none. -/
def specialMarks : Text := ['.', '\\', '[', '\x7b', '(', ')', '*', '+', '?', '^', '$', '|']

def Literal (t : Text) : Prop := ∀ c ∈ t, c ∉ specialMarks

/-- The expression for characters one behind the other. -/
def inRow (m : Modes) (t : Text) : Regexp := t.foldr (fun c rest => .both (m.literal c.toNat) rest) .nothing

theorem inRow_cons (m : Modes) (c : Char) (t : Text) :
    inRow m (c :: t) = .both (m.literal c.toNat) (inRow m t) := rfl

theorem Sign.ofText?_literal (literal : Literal t) : ofText? t = some (t.map .plain) := by
  induction t with
  | nil => rfl
  | cons c rest ih =>
    obtain ⟨here, behind⟩ := List.forall_mem_cons.mp literal
    have noEscape : c ≠ '\\' := by
      rintro rfl
      exact here (by decide)
    rw [ofText?, ih behind, List.map_cons, Option.map_some]
    · simp [noEscape]
    · simp [noEscape]

/-- Nothing in front of a literal text is a mode of the whole expression. -/
theorem globalModes_literal (literal : Literal t) (fuel : Nat) (s : Reading) (signs : s.signs = t.map .plain) :
    (globalModes fuel []).run s = some ([], s) := by
  obtain ⟨_, _, _, _, _⟩ := s
  cases signs
  cases fuel with
  | zero => rfl
  | succ fuel =>
    cases t with
    | nil => rfl
    | cons c rest =>
      have noBracket : c ≠ '(' := by
        rintro rfl
        exact literal '(' List.mem_cons_self (by decide)
      have spaces : skipsSpacing (Modes.plain.setAll true []) c = return false := rfl
      rw [globalModes]
      simp [Reader.peek, Reader.next, spaces]

theorem sequence_literal {m : Modes} (unspaced : m.spaced = false) (literal : Literal t) {fuel : Nat}
    (enough : t.length < fuel) (canRepeat : Bool) (items : List Regexp) (s : Reading)
    (signs : s.signs = t.map .plain) :
    (sequence fuel m canRepeat items).run s =
      some (items.foldl (fun rest item => .both item rest) (inRow m t), { s with signs := [] }) := by
  induction t generalizing fuel canRepeat items s with
  | nil =>
    obtain ⟨fuel, rfl⟩ := Nat.exists_eq_succ_of_ne_zero (Nat.ne_zero_of_lt enough)
    obtain ⟨_, _, _, _, _⟩ := s
    cases signs
    rfl
  | cons c rest ih =>
    obtain ⟨fuel, rfl⟩ := Nat.exists_eq_succ_of_ne_zero (Nat.ne_zero_of_lt enough)
    obtain ⟨here, behind⟩ := List.forall_mem_cons.mp literal
    obtain ⟨_, _, _, _, _⟩ := s
    cases signs
    simp only [specialMarks, List.mem_cons, List.not_mem_nil, or_false, not_or] at here
    obtain ⟨_, _, _, brace, _, closes, star, plus, question, _, _, bar⟩ := here
    have quantifies : quantifier c = return none := by
      unfold quantifier
      split <;> first | contradiction | rfl
    have spaces : skipsSpacing m c = return false := by
      rw [skipsSpacing, unspaced]
      rfl
    have further := ih behind (Nat.lt_of_succ_lt_succ enough) true (m.literal c.toNat :: items)
    rw [sequence]
    simpa [Reader.peek, Reader.next, quantifies, spaces, bar, closes, inRow_cons] using further _ rfl

theorem parse?_literal (literal : Literal t) : parse? t = some (inRow .plain t) := by
  let start : Reading := ⟨t.map .plain, [none], [], none, []⟩
  have modes : (globalModes (t.length + 1) []).run start = some ([], start) :=
    globalModes_literal literal (t.length + 1) start rfl
  have items : (sequence (3 * t.length + 2) .plain false []).run start =
      some (inRow .plain t, { start with signs := [] }) :=
    sequence_literal rfl literal (by omega) false [] start rfl
  have unbarred : (Reader.nextIs '|').run { start with signs := [] } =
      some (false, { start with signs := [] }) := rfl
  have read : (expression t.length).run start = some (inRow .plain t, { start with signs := [] }) := by
    rw [expression, StateT.run_bind, modes]
    simp [alternatives, Modes.setAll, items, unbarred, start]
  rw [parse?, Sign.ofText?_literal literal, Option.bind_eq_bind, Option.bind_some, List.length_map,
    StateT.run'_eq, read]
  rfl

theorem holds_literal (c d : Char) : (Chars.mk false [.char c.toNat] .exact).holds d = decide (c = d) := by
  by_cases same : c = d
  · simp [Chars.holds, Item.holds, same]
  · have differ : c.toNat ≠ d.toNat := mt Char.toNat_inj.mp same
    simp [Chars.holds, Item.holds, Folding.likes, Folding.fold, same, differ]

theorem run_inRow (next : Rest) (p : Place) :
    (inRow .plain t).run next p = (Place.passAll? (fun a b => a = b) t p).bind next := by
  induction t generalizing p with
  | nil => rfl
  | cons c t ih =>
    have chars : (Modes.plain.chars false [.char c.toNat]).holds = fun d => decide (c = d) :=
      funext (holds_literal c)
    have behind : (inRow .plain t).run next = fun q => (Place.passAll? (fun a b => a = b) t q).bind next :=
      funext ih
    rw [inRow_cons, run, Modes.literal, run, chars, behind, Place.passAll?, Option.bind_assoc]

theorem findFrom_inRow (before s : Text) : (inRow .plain t).findFrom before s = true ↔ t <:+: s := by
  induction s generalizing before with
  | nil => rw [findFrom, run_inRow, Option.bind_fun_some, Place.passAll?_isSome, List.prefix_nil, List.infix_nil]
  | cons c s ih =>
    rw [findFrom, run_inRow, Option.bind_fun_some, Bool.or_eq_true, Place.passAll?_isSome, ih,
      List.infix_cons_iff]

end Literal

end Regexp

/-- A text without marks of its own is an expression, and it is found just in those values that contain it. -/
theorem Clause.regexpTruth_literal {raw : Text} (literal : Regexp.Literal raw) (value : Text) :
    regexpTruth (some value) (.text raw) = .ok (.ofBool (decide (raw <:+: value))) := by
  have found : (Regexp.inRow .plain raw).isFoundIn value = decide (raw <:+: value) :=
    Bool.eq_iff_iff.mpr ((Regexp.findFrom_inRow [] value).trans decide_eq_true_iff.symm)
  rw [regexpTruth, Regexp.parse?_literal literal]
  exact congrArg (fun b => Except.ok (Truth.ofBool b)) found

end SearchBox
