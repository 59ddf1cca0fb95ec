import SearchBox.FilteringWork
import SearchBox.Proofs.FilterRuns

/- What a query holds after predicates were put on it in a row. An operation works on the query itself, but
   it is refused before it has changed anything; so a row that ends early leaves what its beginning leaves. -/
namespace SearchBox

namespace Predicate

theorem method_cases (p : Predicate) (q : Query) :
    (∃ fault, p.method (p.resolvedKind q) = .error fault ∧ p.filterCall q = .error fault) ∨
      ∃ m c, p.method (p.resolvedKind q) = .ok m ∧ p.filterCall q = .ok c ∧
        m.clause q = q.clause c ∧ m.connective.joint = .ok p.joint := by
  unfold method filterCall joint
  cases p.operand 0 with
  | error fault =>
    cases p.resolvedKind q <;> cases p.isOr
    case isIn.false | isIn.true | notIn.false | notIn.true | between.false | between.true =>
      exact Or.inr ⟨_, _, rfl, rfl, rfl, rfl⟩
    all_goals exact Or.inl ⟨fault, rfl, rfl⟩
  | ok value =>
    cases p.resolvedKind q <;> cases p.isOr <;> exact Or.inr ⟨_, _, rfl, rfl, rfl, rfl⟩

theorem method_entryOn (p : Predicate) (q : Query) :
    ((p.method (p.resolvedKind q)).bind fun m => m.entryOn q) = p.entryOn q := by
  rw [entryOn]
  rcases p.method_cases q with ⟨fault, found, call⟩ | ⟨m, c, found, call, clause, connective⟩
  · rw [found, call]
    rfl
  · rw [found, call]
    change m.entryOn q = q.clause c >>= fun clause => _
    rw [FilterMethod.entryOn, clause, connective]
    rfl

end Predicate

namespace Outcome
variable {α : Type}

def ofWork (o : Outcome α) : EStateM.Result Fault Query α :=
  match o.result with
  | .ok a => .ok a o.query
  | .error fault => .error fault o.query

end Outcome

namespace QueryWork
variable {α : Type} (debug : Bool) (q : Query)

theorem accept_run (x : Except Fault α) :
    (accept x).run q =
      match x with
      | .ok a => .ok a q
      | .error fault => .error fault q := by
  cases x <;> rfl

theorem method_run (p : Predicate) :
    (do perform (← accept (p.method (p.resolvedKind q))) : QueryWork Unit).run q =
      match p.entryOn q with
      | .ok e => .ok () (q.append e)
      | .error fault => .error fault q := by
  rw [EStateM.run_bind, accept_run, ← p.method_entryOn q]
  cases p.method (p.resolvedKind q) with
  | error fault => rfl
  | ok m => exact m.perform_run q

theorem putOn_run (p : Predicate) :
    (putOn debug p).run q =
      match p.entryPutOn debug q with
      | .ok e => .ok () (q.append e)
      | .error fault => .error fault q := by
  rw [putOn, EStateM.run_bind]
  cases debug with
  | false => exact method_run q p
  | true =>
    rw [Predicate.entryPutOn]
    cases p.describe with
    | error fault => rfl
    | ok words => exact method_run q p

theorem putOn_ok {q next : Query} {p : Predicate} :
    (putOn debug p).run q = .ok () next ↔ ∃ e, p.entryPutOn debug q = .ok e ∧ next = q.append e := by
  rw [putOn_run]
  cases p.entryPutOn debug q with
  | error fault => simp
  | ok e => simp [eq_comm]

theorem putOn_error {q state : Query} {p : Predicate} {fault : Fault} :
    (putOn debug p).run q = .error fault state ↔
      p.entryPutOn debug q = .error fault ∧ state = q := by
  rw [putOn_run]
  cases p.entryPutOn debug q with
  | error other => simp [eq_comm]
  | ok e => simp

theorem putAllOnFrom_run (count : Nat) (ps : List Predicate) :
    (putAllOnFrom debug count ps).run q = (q.filterByFrom debug count ps).value.ofWork := by
  induction ps generalizing count q with
  | nil => rfl
  | cons p rest ih =>
    rw [putAllOnFrom, EStateM.run_bind, putOn_run, Query.filterByFrom_cons,
      Query.filterByLogged_value]
    cases p.entryPutOn debug q with
    | error fault => rfl
    | ok e => exact ih (q.append e) (count + 1)

theorem matchColumns_run_from (count : Nat) (names : List Text) (raw : Text) :
    (matchColumns debug names raw).run q =
      ((q.filterByFrom debug count
        (names.map (Predicate.ofPattern · ('%' :: raw ++ ['%'])))).value.withResult .null).ofWork := by
  induction names generalizing count q with
  | nil => rfl
  | cons name rest ih =>
    have step : matchColumns debug (name :: rest) raw =
        (putOn debug (.ofPattern name ('%' :: raw ++ ['%'])) >>= fun _ =>
          matchColumns debug rest raw) := by
      simp [matchColumns]
    rw [step, EStateM.run_bind, putOn_run, List.map_cons, Query.filterByFrom_cons,
      Query.filterByLogged_value]
    cases (Predicate.ofPattern name ('%' :: raw ++ ['%'])).entryPutOn debug q with
    | error fault => rfl
    | ok e => exact ih (q.append e) (count + 1)

theorem matchColumns_run (names : List Text) (map : ColumnMap) (raw : Text) :
    (matchColumns debug names raw).run q =
      (q.applySearch debug (.columns names) map raw).value.ofWork := by
  rw [Query.applySearch, Query.applyColumns_value]
  exact matchColumns_run_from debug q 0 names raw

end QueryWork

namespace Query

/-- `q.Takes debug ps last`: each of `ps` can be put on after those before it, and `last` is the query
    with all of them. -/
inductive Takes (debug : Bool) : Query → List Predicate → Query → Prop where
  | nil (q : Query) : Takes debug q [] q
  | cons {q next last : Query} {p : Predicate} {rest : List Predicate}
      (first : (QueryWork.putOn debug p).run q = .ok () next) (others : Takes debug next rest last) :
      Takes debug q (p :: rest) last

section Takes
variable {debug : Bool} {q last : Query} {ps : List Predicate}

theorem Takes.entries (takes : q.Takes debug ps last) :
    ∃ entries, List.Forall₂ (fun p e => p.entryPutOn debug q = .ok e) ps entries ∧
      last = q.extend entries := by
  induction takes with
  | nil q => exact ⟨[], .nil, (extend_nil q).symm⟩
  | @cons q next last p rest first others ih =>
    obtain ⟨e, entry, rfl⟩ := (QueryWork.putOn_ok debug).mp first
    obtain ⟨entries, entriesOf, rfl⟩ := ih
    refine ⟨e :: entries, .cons entry ?_, (extend_cons q e entries).symm⟩
    -- what a predicate puts on does not depend on the filters put on before it
    exact entriesOf.imp fun r f put => (entryPutOn_append debug q e r).symm.trans put

theorem takes_or_refused (debug : Bool) (q : Query) (ps : List Predicate) :
    (∃ last, q.Takes debug ps last) ∨
      ∃ before p after reached fault state, ps = before ++ p :: after ∧
        q.Takes debug before reached ∧ (QueryWork.putOn debug p).run reached = .error fault state := by
  induction ps generalizing q with
  | nil => exact Or.inl ⟨q, .nil q⟩
  | cons p rest ih =>
    cases first : (QueryWork.putOn debug p).run q with
    | error fault state => exact Or.inr ⟨[], p, rest, q, fault, state, rfl, .nil q, first⟩
    | ok _ next =>
      rcases ih next with ⟨last, others⟩ | ⟨before, r, after, reached, fault, state, rfl, takes, refused⟩
      · exact Or.inl ⟨last, .cons first others⟩
      · exact Or.inr ⟨p :: before, r, after, reached, fault, state, rfl, .cons first takes, refused⟩

theorem putAllOn_ok {entries : List (Entry Clause)}
    (entriesOf : List.Forall₂ (fun p e => p.entryPutOn debug q = .ok e) ps entries) :
    (QueryWork.putAllOn debug ps).run q = .ok ps.length (q.extend entries) := by
  rw [QueryWork.putAllOn, QueryWork.putAllOnFrom_run, filterByFrom_ok debug 0 entriesOf, Nat.zero_add]
  rfl

theorem putAllOn_refused {entries : List (Entry Clause)} {p : Predicate} {fault : Fault}
    (entriesOf : List.Forall₂ (fun p e => p.entryPutOn debug q = .ok e) ps entries)
    (refused : p.entryPutOn debug q = .error fault) (after : List Predicate) :
    (QueryWork.putAllOn debug (ps ++ p :: after)).run q = .error fault (q.extend entries) := by
  have stops := filterByFrom_refused debug 0 entriesOf refused after
  rw [QueryWork.putAllOn, QueryWork.putAllOnFrom_run, stops]
  rfl

end Takes

/-- What a loop does that puts on what each of its items asks for: it goes to its end, or to the first item
    that is refused and no further. The same is done where records are written. -/
structure KeepsBeginning {ι α : Type} (debug : Bool) (q : Query) (asked : ι → Predicate)
    (value : List ι → α) (loop : List ι → QueryWork α) (recorded : List ι → Logged (Outcome α)) :
    Prop where
  same : ∀ items, (loop items).run q = (recorded items).value.ofWork
  finished : ∀ items last, q.Takes debug (items.map asked) last →
    (loop items).run q = .ok (value items) last
  stopped : ∀ before item after reached fault state, q.Takes debug (before.map asked) reached →
    (QueryWork.putOn debug (asked item)).run reached = .error fault state →
      state = reached ∧ (loop (before ++ item :: after)).run q = .error fault reached
  unseen : ∀ before item reached fault state, q.Takes debug (before.map asked) reached →
    (QueryWork.putOn debug (asked item)).run reached = .error fault state →
      ∃ records, ∀ after,
        recorded (before ++ item :: after) = ⟨records, ⟨reached, .error fault⟩⟩

section Loops
variable (debug : Bool) (q : Query)

theorem refused_run {reached state : Query} {before : List Predicate} {p : Predicate} {fault : Fault}
    (takes : q.Takes debug before reached)
    (refused : (QueryWork.putOn debug p).run reached = .error fault state) :
    state = reached ∧ ∃ records, ∀ after,
      q.filterByAll debug (before ++ p :: after) = ⟨records, ⟨reached, .error fault⟩⟩ := by
  obtain ⟨entries, entriesOf, rfl⟩ := takes.entries
  obtain ⟨cause, rfl⟩ := (QueryWork.putOn_error debug).mp refused
  rw [entryPutOn_extend] at cause
  exact ⟨rfl, _, filterByFrom_refused debug 0 entriesOf cause⟩

theorem filterByAll_keepsBeginning :
    KeepsBeginning debug q id List.length (QueryWork.putAllOn debug) (q.filterByAll debug) where
  same := QueryWork.putAllOnFrom_run debug q 0
  finished := by
    intro ps last takes
    rw [List.map_id] at takes
    obtain ⟨entries, entriesOf, rfl⟩ := takes.entries
    exact putAllOn_ok entriesOf
  stopped := by
    intro before p after reached fault state takes refused
    rw [List.map_id] at takes
    obtain ⟨entries, entriesOf, rfl⟩ := takes.entries
    obtain ⟨cause, rfl⟩ := (QueryWork.putOn_error debug).mp refused
    rw [entryPutOn_extend] at cause
    exact ⟨rfl, putAllOn_refused entriesOf cause after⟩
  unseen := by
    intro before p reached fault state takes refused
    rw [List.map_id] at takes
    exact (refused_run debug q takes refused).2

theorem applySearch_keepsBeginning (map : ColumnMap) (raw : Text) :
    KeepsBeginning debug q (Predicate.ofPattern · ('%' :: raw ++ ['%'])) (fun _ => .null)
      (QueryWork.matchColumns debug · raw)
      (fun names => q.applySearch debug (.columns names) map raw) where
  same := fun names => QueryWork.matchColumns_run debug q names map raw
  finished := by
    intro names last takes
    obtain ⟨entries, entriesOf, rfl⟩ := takes.entries
    rw [QueryWork.matchColumns_run_from debug q 0, filterByFrom_ok debug 0 entriesOf]
    rfl
  stopped := by
    intro before name after reached fault state takes refused
    obtain ⟨unchanged, records, stops⟩ := refused_run debug q takes refused
    refine ⟨unchanged, ?_⟩
    rw [QueryWork.matchColumns_run_from debug q 0, List.map_append, List.map_cons]
    exact congrArg (fun run => (run.value.withResult Datum.null).ofWork) (stops _)
  unseen := by
    intro before name reached fault state takes refused
    obtain ⟨_, records, stops⟩ := refused_run debug q takes refused
    refine ⟨records ++ [], ?_⟩
    intro after
    rw [applySearch, applyColumns, List.map_append, List.map_cons, stops]
    rfl

/-- Predicates of any kind, on any query. Where all can be put on, the filters that are new are theirs, each
    the one that its predicate alone puts on. Where one is refused, the query holds what those before it
    put on, and nothing behind it is looked at. It is the same for a text that is looked for in columns. -/
theorem filterByAll_prefix :
    (∀ ps, (∃ last, q.Takes debug ps last) ∨
      ∃ before p after reached fault state, ps = before ++ p :: after ∧
        q.Takes debug before reached ∧
          (QueryWork.putOn debug p).run reached = .error fault state) ∧
      (∀ ps last, q.Takes debug ps last → ∃ entries, last = q.extend entries ∧
        List.Forall₂ (fun p e => (QueryWork.putOn debug p).run q = .ok () (q.append e) ∧
          (e.connective = .or ↔ p.isOr = true)) ps entries) ∧
      KeepsBeginning debug q id List.length (QueryWork.putAllOn debug) (q.filterByAll debug) ∧
      ∀ map raw, KeepsBeginning debug q (Predicate.ofPattern · ('%' :: raw ++ ['%'])) (fun _ => .null)
        (QueryWork.matchColumns debug · raw)
        (fun names => q.applySearch debug (.columns names) map raw) := by
  refine ⟨takes_or_refused debug q, ?_, filterByAll_keepsBeginning debug q,
    applySearch_keepsBeginning debug q⟩
  intro ps last takes
  obtain ⟨entries, entriesOf, reached⟩ := takes.entries
  refine ⟨entries, reached, entriesOf.imp fun p e put => ⟨?_, ?_⟩⟩
  · exact (QueryWork.putOn_ok debug).mpr ⟨e, put, rfl⟩
  · rw [Predicate.entryOn_connective (Predicate.entryOn_of_entryPutOn put)]
    exact p.joint_eq_or

end Loops
end Query
end SearchBox
