import Mathlib.Data.List.Forall2
import SearchBox.Proofs.FilterCalls
import SearchBox.Proofs.RecordedWork

/- Putting predicates onto a query one after the other. What a predicate puts on does not depend on the filters
   that are there, so a run puts on what its predicates put on alone, up to the first that is refused. -/
namespace SearchBox

namespace Predicate

def joint (p : Predicate) : Connective := if p.isOr then .or else .and

def entryOn (q : Query) (p : Predicate) : Except Fault (Entry Clause) := do
  let clause ← q.clause (← p.filterCall q)
  return ⟨p.joint, clause⟩

theorem entryOn_eq (p : Predicate) (q : Query) :
    p.entryOn q = ((p.filterCall q).bind q.clause).map fun clause => ⟨p.joint, clause⟩ := by
  rw [entryOn]
  cases p.filterCall q with
  | error fault => rfl
  | ok c =>
    change (q.clause c).bind _ = (q.clause c).map _
    cases q.clause c <;> rfl

/-- While debugging, a predicate that cannot be described is refused as well. -/
def entryPutOn (debug : Bool) (q : Query) (p : Predicate) : Except Fault (Entry Clause) := do
  if debug then let _ ← p.describe
  p.entryOn q

theorem entryPutOn_of_described {p : Predicate} (described : ∃ words, p.describe = .ok words)
    (debug : Bool) (q : Query) : p.entryPutOn debug q = p.entryOn q := by
  obtain ⟨words, described⟩ := described
  cases debug with
  | false => rfl
  | true =>
    rw [entryPutOn, described]
    rfl

theorem entryOn_of_entryPutOn {p : Predicate} {debug : Bool} {q : Query} {e : Entry Clause}
    (put : p.entryPutOn debug q = .ok e) : p.entryOn q = .ok e := by
  cases debug with
  | false => exact put
  | true =>
    obtain ⟨words, _, put⟩ := bind_ok put
    exact put

theorem entryOn_connective {p : Predicate} {q : Query} {e : Entry Clause} (entry : p.entryOn q = .ok e) :
    e.connective = p.joint := by
  rw [entryOn_eq] at entry
  obtain ⟨clause, _, rfl⟩ := map_ok entry
  rfl

theorem joint_eq_or (p : Predicate) : p.joint = .or ↔ p.isOr = true := by
  rw [joint]
  cases p.isOr <;> simp

theorem ofWord_connective (p : Predicate) : Connective.ofWord p.connective = .ok p.joint := by
  unfold connective joint
  split <;> rfl

end Predicate

namespace Query

def extend (q : Query) (entries : List (Entry Clause)) : Query :=
  { q with filters := q.filters ++ entries }

theorem extend_nil (q : Query) : q.extend [] = q := by
  rw [extend, List.append_nil]

theorem extend_cons (q : Query) (e : Entry Clause) (entries : List (Entry Clause)) :
    q.extend (e :: entries) = (q.append e).extend entries := by
  simp [extend, append]

theorem filterBy_eq (q : Query) (p : Predicate) :
    q.filterBy p = (p.entryOn q).map q.append := by
  rw [filterBy, Predicate.entryOn]
  cases p.filterCall q with
  | error fault => rfl
  | ok c =>
    change q.call p.connective c = _
    rw [call]
    cases made : q.clause c with
    | error fault =>
      change _ = Except.map q.append (q.clause c >>= fun clause => _)
      rw [made]
      rfl
    | ok clause =>
      change q.add clause p.connective = Except.map q.append (q.clause c >>= fun clause => _)
      rw [made, add, p.ofWord_connective]
      rfl

/-- The filters that are there do not matter to what a predicate stands for. -/
theorem entryPutOn_extend (debug : Bool) (q : Query) (entries : List (Entry Clause)) (p : Predicate) :
    p.entryPutOn debug (q.extend entries) = p.entryPutOn debug q := rfl

theorem entryPutOn_append (debug : Bool) (q : Query) (e : Entry Clause) (p : Predicate) :
    p.entryPutOn debug (q.append e) = p.entryPutOn debug q := entryPutOn_extend debug q [e] p

theorem filterByLogged_value (debug : Bool) (q : Query) (p : Predicate) :
    (q.filterByLogged debug p).value = (p.entryPutOn debug q).map q.append := by
  cases debug with
  | false => exact filterBy_eq q p
  | true =>
    rw [filterByLogged, Predicate.entryPutOn]
    cases p.describe with
    | error fault => rfl
    | ok words => exact filterBy_eq q p

theorem filterByLogged_records_extend (debug : Bool) (q : Query) (entries : List (Entry Clause))
    (p : Predicate) :
    ((q.extend entries).filterByLogged debug p).records = (q.filterByLogged debug p).records := by
  cases debug with
  | false => rfl
  | true =>
    rw [filterByLogged, filterByLogged]
    cases p.describe <;> rfl

theorem filterByFrom_cons_eq (debug : Bool) (count : Nat) (q : Query) (p : Predicate) (rest : List Predicate) :
    q.filterByFrom debug count (p :: rest) =
      match p.entryPutOn debug q with
      | .error fault => ⟨(q.filterByLogged debug p).records, ⟨q, .error fault⟩⟩
      | .ok e =>
        ⟨(q.filterByLogged debug p).records ++ ((q.append e).filterByFrom debug (count + 1) rest).records,
          ((q.append e).filterByFrom debug (count + 1) rest).value⟩ := by
  rw [filterByFrom, Logged.bind_eq, filterByLogged_value]
  cases p.entryPutOn debug q with
  | error fault =>
    change Logged.mk ((q.filterByLogged debug p).records ++ []) _ = _
    rw [List.append_nil]
    rfl
  | ok e => rfl

section Runs
variable (debug : Bool) {q : Query} {ps : List Predicate} {entries : List (Entry Clause)}

theorem filterByFrom_put (count : Nat)
    (entriesOf : List.Forall₂ (fun p e => p.entryPutOn debug q = .ok e) ps entries) (rest : List Predicate) :
    q.filterByFrom debug count (ps ++ rest) =
      ⟨(ps.flatMap fun p => (q.filterByLogged debug p).records) ++
          ((q.extend entries).filterByFrom debug (count + ps.length) rest).records,
        ((q.extend entries).filterByFrom debug (count + ps.length) rest).value⟩ := by
  -- the query grows on the way, and what the later predicates stand for stays what it was
  induction ps generalizing q count entries with
  | nil =>
    cases entriesOf
    rw [extend_nil]
    rfl
  | cons p more ih =>
    cases entriesOf with
    | @cons _ e _ others head tail =>
      have later := ih (count + 1)
        (tail.imp fun r f entry => (entryPutOn_append debug q e r).trans entry)
      have records (r : Predicate) :
          ((q.append e).filterByLogged debug r).records = (q.filterByLogged debug r).records :=
        filterByLogged_records_extend debug q [e] r
      simp only [records] at later
      rw [List.cons_append, filterByFrom_cons_eq, head, extend_cons, List.length_cons,
        Nat.add_comm more.length, ← Nat.add_assoc, List.flatMap_cons, List.append_assoc]
      dsimp only
      rw [later]

theorem filterByFrom_ok (count : Nat)
    (entriesOf : List.Forall₂ (fun p e => p.entryPutOn debug q = .ok e) ps entries) :
    (q.filterByFrom debug count ps).value = ⟨q.extend entries, .ok (count + ps.length)⟩ := by
  have whole := filterByFrom_put debug count entriesOf []
  rw [List.append_nil] at whole
  rw [whole]
  rfl

/-- A run ends at the first refusal; what it leaves and what it records do not depend on what follows. -/
theorem filterByFrom_refused (count : Nat) {p : Predicate} {fault : Fault}
    (entriesOf : List.Forall₂ (fun p e => p.entryPutOn debug q = .ok e) ps entries)
    (refused : p.entryPutOn debug q = .error fault) (after : List Predicate) :
    q.filterByFrom debug count (ps ++ p :: after) =
      ⟨(ps ++ [p]).flatMap fun p => (q.filterByLogged debug p).records,
        ⟨q.extend entries, .error fault⟩⟩ := by
  rw [filterByFrom_put debug count entriesOf, filterByFrom_cons_eq, entryPutOn_extend, refused,
    List.flatMap_append, List.flatMap_singleton]
  dsimp only
  rw [filterByLogged_records_extend]

end Runs

end Query
end SearchBox
