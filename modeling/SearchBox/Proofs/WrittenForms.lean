import Mathlib.Algebra.Group.Int.Defs
import Mathlib.Algebra.Group.Nat.Defs
import SearchBox.Search

/- What can be written. Nothing keeps a value from being written but a whole number in it, however deep, that
   has more digits than numbers may be written with. -/
namespace SearchBox

namespace Integer

def Fits (n : Int) : Prop := n.natAbs < bound

theorem written?_isSome (n : Int) : (written? n).isSome = true ↔ Fits n := by
  unfold written? Fits
  split <;> simp_all

theorem not_fits_pow {exponent : Nat} (long : digitLimit ≤ exponent) : ¬ Fits (10 ^ exponent) := by
  unfold Fits bound
  generalize digitLimit = limit at long
  rw [Int.natAbs_pow, Nat.not_lt]
  exact Nat.pow_le_pow_right (by decide) long

end Integer

theorem isSome_both {α β γ : Type} (f : α → β → γ) (x : Option α) (y : Option β) :
    (do return f (← x) (← y)).isSome = true ↔ x.isSome = true ∧ y.isSome = true := by
  cases x <;> cases y <;> simp

namespace Operand

mutual

def integers : Operand → List Int
  | .int n => [n]
  | .list items => integersOf items
  | .null | .text _ => []

def integersOf : List Operand → List Int
  | [] => []
  | item :: rest => integers item ++ integersOf rest

end

mutual

theorem written?_isSome : (v : Operand) → (v.written?.isSome = true ↔ ∀ n ∈ v.integers, Integer.Fits n)
  | .null | .text _ => by simp [written?, integers]
  | .int n => by simp [written?, integers, Integer.written?_isSome]
  | .list items => by simp [written?, integers, writtenItems?_isSome items]

theorem writtenItems?_isSome : (items : List Operand) →
    ((writtenItems? items).isSome = true ↔ ∀ n ∈ integersOf items, Integer.Fits n)
  | [] => by simp [writtenItems?, integersOf]
  | item :: rest => by
    rw [writtenItems?, isSome_both, written?_isSome item, writtenItems?_isSome rest, integersOf, List.forall_mem_append]

end

theorem mem_integersOf {items : List Operand} {n : Int} :
    n ∈ integersOf items ↔ ∃ v ∈ items, n ∈ v.integers := by
  induction items with
  | nil => simp [integersOf]
  | cons item rest ih => simp [integersOf, ih]

end Operand

namespace Datum

mutual

def integers : Datum → List Int
  | .int n => [n]
  | .list items => integersOf items
  | .record fields => integersIn fields
  | .null | .bool _ | .real _ | .text _ => []

def integersOf : List Datum → List Int
  | [] => []
  | d :: ds => integers d ++ integersOf ds

def integersIn : List (Text × Datum) → List Int
  | [] => []
  | (_, d) :: rest => integers d ++ integersIn rest

end

mutual

theorem written?_isSome : (d : Datum) → (d.written?.isSome = true ↔ ∀ n ∈ d.integers, Integer.Fits n)
  | .null | .bool _ | .real _ | .text _ => by simp [written?, integers]
  | .int n => by simp [written?, integers, Integer.written?_isSome]
  | .list items => by simp [written?, integers, writtenItems?_isSome items]
  | .record fields => by simp [written?, integers, writtenFields?_isSome fields]

theorem writtenItems?_isSome : (items : List Datum) →
    ((writtenItems? items).isSome = true ↔ ∀ n ∈ integersOf items, Integer.Fits n)
  | [] => by simp [writtenItems?, integersOf]
  | d :: ds => by
    rw [writtenItems?, isSome_both, written?_isSome d, writtenItems?_isSome ds, integersOf, List.forall_mem_append]

theorem writtenFields?_isSome : (fields : List (Text × Datum)) →
    ((writtenFields? fields).isSome = true ↔ ∀ n ∈ integersIn fields, Integer.Fits n)
  | [] => by simp [writtenFields?, integersIn]
  | (_, d) :: rest => by
    rw [writtenFields?, isSome_both, written?_isSome d, writtenFields?_isSome rest, integersIn, List.forall_mem_append]

end

end Datum

namespace Definition

mutual

def integers : Definition → List Int
  | .plain d => d.integers
  | .list items | .tuple items => integersOf items
  | .callback _ | .spec _ => []

def integersOf : List Definition → List Int
  | [] => []
  | d :: ds => integers d ++ integersOf ds

end

mutual

theorem written?_isSome : (d : Definition) → (d.written?.isSome = true ↔ ∀ n ∈ d.integers, Integer.Fits n)
  | .plain d => by rw [written?, integers, Datum.written?_isSome]
  | .list items | .tuple items => by simp [written?, integers, writtenItems?_isSome items]
  | .callback _ | .spec _ => by simp [written?, integers]

theorem writtenItems?_isSome : (items : List Definition) →
    ((writtenItems? items).isSome = true ↔ ∀ n ∈ integersOf items, Integer.Fits n)
  | [] => by simp [writtenItems?, integersOf]
  | d :: ds => by
    rw [writtenItems?, isSome_both, written?_isSome d, writtenItems?_isSome ds, integersOf, List.forall_mem_append]

end

end Definition

section OrUnprintable
variable {written : Option Text}

theorem Fault.orUnprintable_ok {t : Text} : orUnprintable written = .ok t ↔ written = some t := by
  cases written <;> simp [orUnprintable]

theorem Fault.showing_eq {refusal : Text → Fault} {fault : Fault} (same : showing refusal written = fault) :
    (∃ t, written = some t ∧ fault = refusal t) ∨ (written = none ∧ fault = .unprintableInteger) := by
  cases written with
  | some t => exact Or.inl ⟨t, rfl, same.symm⟩
  | none => exact Or.inr ⟨rfl, same.symm⟩

end OrUnprintable

section Results
variable {α β γ ε : Type} {x : Except ε α} {y : Except ε β}

theorem exists_return (f : α → γ) : (∃ c, (do return f (← x)) = Except.ok c) ↔ ∃ a, x = .ok a := by
  cases x with
  | error fault => exact ⟨nofun, nofun⟩
  | ok a => exact ⟨fun _ => ⟨a, rfl⟩, fun _ => ⟨f a, rfl⟩⟩

theorem exists_return_both (f : α → β → γ) :
    (∃ c, (do return f (← x) (← y)) = Except.ok c) ↔ (∃ a, x = .ok a) ∧ ∃ b, y = .ok b := by
  cases x with
  | error fault => exact ⟨nofun, nofun⟩
  | ok a =>
    refine (exists_return (f a)).trans ?_
    simp

end Results

namespace Predicate
variable {p : Predicate}

/-- Whether a predicate has what it is put on with, which is all that its description names. -/
structure Complete (p : Predicate) : Prop where
  single : p.kind ∉ [Kind.isIn, .notIn, .between] → ∃ value, p.operand 0 = .ok value
  bounds : p.kind = .between → ∃ low high, p.operand 0 = .ok low ∧ p.operand 1 = .ok high
  part : p.kind = .datePart → ∃ part, p.datePart = some part

def described (p : Predicate) : List Operand :=
  match p.kind with
  | .isIn | .notIn => p.operands
  | .between => p.operands.take 2
  | .like | .ilike | .datePart | .regexp | .basic => p.operands.take 1

/-- Whether no number that the description shows is too long to be written. -/
def Writable (p : Predicate) : Prop := ∀ n ∈ Operand.integersOf p.described, Integer.Fits n

theorem Writable.of_operands (short : ∀ v ∈ p.operands, ∀ n ∈ v.integers, Integer.Fits n) : p.Writable := by
  have shows : p.described ⊆ p.operands := by
    unfold described
    split
    · exact List.Subset.refl _
    · exact List.Subset.refl _
    all_goals exact fun _ => List.mem_of_mem_take
  intro n member
  obtain ⟨v, inShown, inValue⟩ := Operand.mem_integersOf.mp member
  exact short v (shows inShown) n inValue

theorem writtenOperand_ok {index : Nat} :
    (∃ t, p.writtenOperand index = .ok t) ↔
      ∃ v, p.operand index = .ok v ∧ ∀ n ∈ v.integers, Integer.Fits n := by
  rw [writtenOperand]
  cases p.operand index with
  | error fault => exact ⟨nofun, nofun⟩
  | ok v =>
    simp only [Except.ok.injEq, exists_eq_left', ← v.written?_isSome, Option.isSome_iff_exists,
      ← Fault.orUnprintable_ok]
    rfl

theorem operands_of_first {v : Operand} (first : p.operand 0 = .ok v) : p.operands.take 1 = [v] := by
  rw [operand] at first
  cases operands : p.operands with
  | nil => simp [operands] at first
  | cons a rest => simpa [operands] using first

theorem operands_of_both {v w : Operand} (first : p.operand 0 = .ok v) (second : p.operand 1 = .ok w) :
    p.operands.take 2 = [v, w] := by
  rw [operand] at first second
  match operands : p.operands with
  | [] | [_] => simp [operands] at first second
  | a :: b :: rest => simp_all

theorem first_written : (∃ t, p.writtenOperand 0 = .ok t) ↔
    (∃ v, p.operand 0 = .ok v) ∧ ∀ n ∈ Operand.integersOf (p.operands.take 1), Integer.Fits n := by
  rw [writtenOperand_ok]
  constructor
  · rintro ⟨v, first, short⟩
    refine ⟨⟨v, first⟩, ?_⟩
    simpa [operands_of_first first, Operand.integersOf] using short
  · rintro ⟨⟨v, first⟩, short⟩
    refine ⟨v, first, ?_⟩
    simpa [operands_of_first first, Operand.integersOf] using short

theorem both_written : ((∃ t, p.writtenOperand 0 = .ok t) ∧ ∃ t, p.writtenOperand 1 = .ok t) ↔
    (∃ low high, p.operand 0 = .ok low ∧ p.operand 1 = .ok high) ∧
      ∀ n ∈ Operand.integersOf (p.operands.take 2), Integer.Fits n := by
  rw [writtenOperand_ok, writtenOperand_ok]
  constructor
  · rintro ⟨⟨low, first, short⟩, high, second, also⟩
    refine ⟨⟨low, high, first, second⟩, ?_⟩
    simpa [operands_of_both first second, Operand.integersOf, or_imp, forall_and] using ⟨short, also⟩
  · rintro ⟨⟨low, high, first, second⟩, short⟩
    have both : (∀ n ∈ low.integers, Integer.Fits n) ∧ ∀ n ∈ high.integers, Integer.Fits n := by
      simpa [operands_of_both first second, Operand.integersOf, or_imp, forall_and] using short
    exact ⟨⟨low, first, both.1⟩, high, second, both.2⟩

theorem list_written : (∃ t, Fault.orUnprintable (Operand.list p.operands).written? = .ok t) ↔
    ∀ n ∈ Operand.integersOf p.operands, Integer.Fits n := by
  simp only [Fault.orUnprintable_ok, ← Option.isSome_iff_exists, Operand.written?_isSome, Operand.integers]

theorem describe_ok : (∃ words, p.describe = .ok words) ↔ p.Complete ∧ p.Writable := by
  have complete (other : p.kind ≠ .datePart) (single : p.kind ∉ [Kind.isIn, .notIn, .between]) :
      p.Complete ↔ ∃ value, p.operand 0 = .ok value :=
    ⟨fun complete => complete.single single, fun value =>
      ⟨fun _ => value, fun between => absurd between (by simp_all), fun part => absurd part other⟩⟩
  cases kind : p.kind with
  | isIn | notIn =>
    have always : p.Complete := ⟨by simp [kind], by simp [kind], by simp [kind]⟩
    simp only [describe, kind, exists_return, list_written, Writable, described, always, true_and]
  | between =>
    have bounds : p.Complete ↔ ∃ low high, p.operand 0 = .ok low ∧ p.operand 1 = .ok high :=
      ⟨fun complete => complete.bounds kind, fun bounds =>
        ⟨by simp [kind], fun _ => bounds, by simp [kind]⟩⟩
    simp only [describe, kind, exists_return_both, both_written, Writable, described, bounds]
  | datePart =>
    cases part : p.datePart with
    | none =>
      refine iff_of_false (by simp [describe, kind, part]) ?_
      rintro ⟨complete, _⟩
      obtain ⟨found, same⟩ := complete.part kind
      simp [part] at same
    | some found =>
      have single : p.Complete ↔ ∃ value, p.operand 0 = .ok value :=
        ⟨fun complete => complete.single (by simp [kind]), fun value =>
          ⟨fun _ => value, by simp [kind], fun _ => ⟨found, part⟩⟩⟩
      simp only [describe, kind, part, exists_return, first_written, Writable, described, single]
  | like | ilike | regexp | basic =>
    rw [complete (by simp [kind]) (by simp [kind])]
    simp only [describe, kind, exists_return, first_written, Writable, described]

theorem Complete.describe_ok (complete : p.Complete) (numberless : ∀ v ∈ p.operands, v.integers = []) :
    ∃ words, p.describe = .ok words := by
  refine Predicate.describe_ok.mpr ⟨complete, .of_operands ?_⟩
  intro v member n inValue
  rw [numberless v member] at inValue
  cases inValue

end Predicate

end SearchBox
