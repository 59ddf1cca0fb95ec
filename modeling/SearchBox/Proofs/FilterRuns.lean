import SearchBox.FilterMethod
import SearchBox.Proofs.PredicateRuns

/- What is left of a query by operations in a row, some of them refused. Every operation first makes a clause
   and then joins it, so one law about the joining covers them all; a run follows by induction. -/
namespace SearchBox

def Connective.word : Connective → Text
  | .and => "and".toList
  | .or => "or".toList

theorem Connective.ofWord_ok {word : Text} {c : Connective} (known : ofWord word = .ok c) :
    c.word = word.lower := by
  unfold ofWord at known
  split at known
  · rename_i isAnd
    cases known
    exact isAnd.symm
  · split at known
    · rename_i isOr
      cases known
      exact isOr.symm
    · cases known

def Operand.joint (given : Operand) : Except Fault Connective := given.word.bind Connective.ofWord

theorem Operand.joint_ok {given : Operand} {c : Connective} (named : given.joint = .ok c) :
    ∃ t, given = .text t ∧ c.word = t.lower := by
  cases given with
  | text t => exact ⟨t, rfl, Connective.ofWord_ok named⟩
  | null => cases named
  | int n => cases named
  | list items => cases named

theorem QueryWork.add_run (clause : Clause) (given : Operand) (q : Query) :
    (add clause given).run q =
      match given.joint with
      | .ok c => .ok () (q.append ⟨c, clause⟩)
      | .error fault => .error fault q := by
  rw [add, Operand.joint]
  cases given.word with
  | error fault => rfl
  | ok word =>
    change (do set (← accept (q.add clause word)) : QueryWork Unit).run q =
      match Connective.ofWord word with
      | .ok c => .ok () (q.append ⟨c, clause⟩)
      | .error fault => .error fault q
    rw [Query.add]
    -- the query is written only where the word is known
    cases Connective.ofWord word with
    | error fault => rfl
    | ok c => rfl

namespace FilterMethod

def isAlternative : FilterMethod → Bool
  | .orCompare .. | .orIsIn .. | .orNotIn .. | .orBetween .. | .orDatePart .. | .orLike ..
  | .orIlike .. | .orRegexp .. => true
  | _ => false

def connective : FilterMethod → Operand
  | .compare _ _ _ given | .isIn _ _ given _ | .between _ _ given | .datePart _ _ _ given
  | .like _ _ given | .ilike _ _ given | .regexp _ _ given => given
  | .notIn .. => .text "and".toList
  | .orCompare .. | .orIsIn .. | .orNotIn .. | .orBetween .. | .orDatePart .. | .orLike ..
  | .orIlike .. | .orRegexp .. => .text "or".toList

def clause : FilterMethod → Query → Except Fault Clause
  | .compare column operator value _, q | .orCompare column operator value, q =>
    q.compareClause column operator value
  | .isIn column values _ negated, q => q.memberClause column values negated.holds
  | .orIsIn column values, q => q.memberClause column values false
  | .notIn column values, q | .orNotIn column values, q => q.memberClause column values true
  | .between column bounds _, q | .orBetween column bounds, q => q.betweenClause column bounds
  | .datePart part column value _, q | .orDatePart part column value, q =>
    q.partClause part column value
  | .like column pattern _, q | .orLike column pattern, q =>
    q.compareClause column (.text "like".toList) pattern
  | .ilike column pattern _, q | .orIlike column pattern, q =>
    q.compareClause column (.text "ilike".toList) pattern
  | .regexp column pattern _, q | .orRegexp column pattern, q =>
    q.compareClause column (.text "regexp".toList) pattern

theorem connective_of_isAlternative {m : FilterMethod} (alternative : m.isAlternative = true) :
    m.connective = .text "or".toList := by
  cases m with
  | orCompare | orIsIn | orNotIn | orBetween | orDatePart | orLike | orIlike | orRegexp => rfl
  | compare | isIn | notIn | between | datePart | like | ilike | regexp => cases alternative

/-- The filter that an operation asks for. The connective is judged after the clause. -/
def entryOn (m : FilterMethod) (q : Query) : Except Fault (Entry Clause) := do
  let clause ← m.clause q
  let c ← m.connective.joint
  return ⟨c, clause⟩

theorem entryOn_ok {m : FilterMethod} {q : Query} {e : Entry Clause} (asked : m.entryOn q = .ok e) :
    m.clause q = .ok e.item ∧ m.connective.joint = .ok e.connective := by
  rw [entryOn] at asked
  obtain ⟨clause, made, asked⟩ := bind_ok asked
  obtain ⟨c, named, asked⟩ := bind_ok asked
  cases asked
  exact ⟨made, named⟩

def refusalOn (m : FilterMethod) (q : Query) : Option Fault :=
  match m.entryOn q with
  | .ok _ => none
  | .error fault => some fault

/-- However an operation hands its work on, in the end one clause is made and joined. -/
theorem perform_eq (m : FilterMethod) :
    QueryWork.perform m = QueryWork.addFrom m.clause m.connective := by
  cases m <;> rfl

theorem perform_run (m : FilterMethod) (q : Query) :
    (QueryWork.perform m).run q =
      match m.entryOn q with
      | .ok e => .ok () (q.append e)
      | .error fault => .error fault q := by
  rw [perform_eq, entryOn]
  change (do QueryWork.add (← QueryWork.accept (m.clause q)) m.connective : QueryWork Unit).run q = _
  cases m.clause q with
  | error fault => rfl
  | ok clause =>
    change (QueryWork.add clause m.connective).run q =
      match (do return ⟨← m.connective.joint, clause⟩ : Except Fault (Entry Clause)) with
      | .ok e => .ok () (q.append e)
      | .error fault => .error fault q
    rw [QueryWork.add_run]
    cases m.connective.joint with
    | error fault => rfl
    | ok c => rfl

theorem entryOn_append (m : FilterMethod) (q : Query) (e : Entry Clause) :
    m.entryOn (q.append e) = m.entryOn q := by
  have same : m.clause (q.append e) = m.clause q := by cases m <;> rfl
  rw [entryOn, entryOn, same]

end FilterMethod

def FilterCall.method (word : Text) : FilterCall → FilterMethod
  | .compare column operator value =>
    .compare (.text column) (operator.elim .null .text) value (.text word)
  | .isIn column values negated =>
    .isIn (.text column) values (.text word) (.int (if negated then 1 else 0))
  | .notIn column values => .isIn (.text column) values (.text word) (.int 1)
  | .between column bounds => .between (.text column) bounds (.text word)
  | .datePart part column value => .datePart part (.text column) value (.text word)
  | .like column pattern => .like (.text column) pattern (.text word)
  | .ilike column pattern => .ilike (.text column) pattern (.text word)
  | .regexp column pattern => .regexp (.text column) pattern (.text word)

/-- What an operation may do to a query: it is refused and nothing changes, or it puts one filter behind
    those that are there, kept with the word it was given in small letters. -/
inductive Effect (m : FilterMethod) (q : Query) : Query → Option Fault → Prop where
  | refused {fault : Fault} (cause : m.entryOn q = .error fault) : Effect m q q (some fault)
  | added {e : Entry Clause} {given : Text} (made : m.clause q = .ok e.item)
      (connective : m.connective = .text given) (kept : e.connective.word = given.lower)
      (alternative : m.isAlternative = true → e.connective.word = "or".toList) :
      Effect m q (q.append e) none

namespace Query

theorem step_eq (q : Query) (m : FilterMethod) :
    q.step m =
      match m.entryOn q with
      | .ok e => (q.append e, none)
      | .error fault => (q, some fault) := by
  rw [step, m.perform_run]
  cases m.entryOn q <;> rfl

theorem step_effect (q : Query) (m : FilterMethod) : Effect m q (q.step m).1 (q.step m).2 := by
  rw [step_eq]
  cases asked : m.entryOn q with
  | error fault => exact .refused asked
  | ok e =>
    obtain ⟨made, named⟩ := FilterMethod.entryOn_ok asked
    obtain ⟨given, connective, kept⟩ := Operand.joint_ok named
    refine .added made connective kept ?_
    intro alternative
    rw [FilterMethod.connective_of_isAlternative alternative] at named
    have isOr : Connective.or = e.connective := Except.ok.inj named
    rw [← isOr]
    rfl

theorem step_method (q : Query) (c : FilterCall) (word : Text) :
    q.step (c.method word) =
      match q.call word c with
      | .ok next => (next, none)
      | .error fault => (q, some fault) := by
  have connective : (c.method word).connective.joint = Connective.ofWord word := by cases c <;> rfl
  have clause : (c.method word).clause q = q.clause c := by
    cases c with
    | isIn column values negated => cases negated <;> rfl
    | _ => rfl
  rw [step_eq, FilterMethod.entryOn, connective, clause, call]
  cases q.clause c with
  | error fault => rfl
  | ok clause =>
    change (match (do return ⟨← Connective.ofWord word, clause⟩ : Except Fault (Entry Clause)) with
      | .ok e => (q.append e, none)
      | .error fault => (q, some fault)) =
      match q.add clause word with
      | .ok next => (next, none)
      | .error fault => (q, some fault)
    rw [add]
    cases Connective.ofWord word with
    | error fault => rfl
    | ok c => rfl

theorem run_cons (q : Query) (m : FilterMethod) (rest : List FilterMethod) :
    q.run (m :: rest) =
      (((q.step m).1.run rest).1, (q.step m).2 :: ((q.step m).1.run rest).2) := rfl

theorem run_append (q : Query) (before after : List FilterMethod) :
    q.run (before ++ after) =
      (((q.run before).1.run after).1, (q.run before).2 ++ ((q.run before).1.run after).2) := by
  induction before generalizing q with
  | nil => rfl
  | cons m rest ih => rw [List.cons_append, run_cons, ih, run_cons, List.cons_append]

/-- What an operation is refused for does not depend on the filters that are there, so a run can be told from
    the query at its start: the filters asked for stand behind one another, and the refused operations leave
    no gap. -/
theorem run_eq (q : Query) (calls : List FilterMethod) :
    q.run calls =
      (q.extend (calls.filterMap fun m => (m.entryOn q).toOption),
        calls.map fun m => m.refusalOn q) := by
  induction calls generalizing q with
  | nil => rw [run, List.filterMap_nil, extend_nil, List.map_nil]
  | cons m rest ih =>
    rw [run_cons, ih, step_eq, List.map_cons, FilterMethod.refusalOn]
    cases asked : m.entryOn q with
    | error fault => simp [asked, Except.toOption]
    | ok e =>
      simp [asked, Except.toOption, FilterMethod.entryOn_append, FilterMethod.refusalOn, extend_cons]

theorem run_length (q : Query) (calls : List FilterMethod) :
    (q.run calls).2.length = calls.length := by
  rw [run_eq, List.length_map]

theorem run_count (q : Query) (calls : List FilterMethod) :
    (q.run calls).1.count = q.count + (q.run calls).2.countP (·.isNone) := by
  have accepted (m : FilterMethod) :
      (m.entryOn q).toOption.isSome = (m.refusalOn q).isNone := by
    rw [FilterMethod.refusalOn]
    cases m.entryOn q <;> rfl
  rw [run_eq, count, count, extend, List.length_append, List.length_filterMap_eq_countP,
    List.countP_map]
  simp only [accepted]
  rfl

/-- Operations in a row, on any query and with any values. Each of them has its effect on what those before
    it have left, and the filters are as many more as there were operations that were not refused. -/
theorem run_filters (q : Query) (calls : List FilterMethod) :
    (∀ before m after, calls = before ++ m :: after →
      ∃ refusal, (q.run calls).2[before.length]? = some refusal ∧
        Effect m (q.run before).1 (q.run (before ++ [m])).1 refusal) ∧
      (∀ e ∈ (q.run calls).1.filters,
        e.connective.word = "and".toList ∨ e.connective.word = "or".toList) ∧
      (q.run calls).2.length = calls.length ∧
      (q.run calls).1.count = q.count + (q.run calls).2.countP (·.isNone) ∧
      ∀ table dialect, q = start table dialect →
        (q.run calls).1.count = (q.run calls).2.countP (·.isNone) := by
  refine ⟨?_, ?_, run_length q calls, run_count q calls, ?_⟩
  · intro before m after split
    subst split
    refine ⟨((q.run before).1.step m).2, ?_, ?_⟩
    · have place : before.length = (q.run before).2.length := (run_length q before).symm
      rw [run_append, run_cons, place]
      simp
    · rw [run_append]
      exact step_effect (q.run before).1 m
  · intro e _
    cases e.connective with
    | and => exact Or.inl rfl
    | or => exact Or.inr rfl
  · intro table dialect fresh
    subst fresh
    rw [run_count]
    exact Nat.zero_add _

example :
    let q := start ⟨"pets".toList, [⟨"name".toList, .string⟩]⟩ none
    let name := Operand.text "name".toList
    let outcome := q.run [.compare name (.text "=".toList) .null (.text "And".toList),
      .like name .null (.text "or".toList), .orIsIn name (.text "ab".toList),
      .between name (.list [.null]) .null, .notIn name (.list [.list []])]
    outcome.2.map (·.isNone) = [true, false, true, false, true] ∧
      outcome.1.filters.map (·.connective.word) =
        ["and".toList, "or".toList, "and".toList] := by decide

end Query
end SearchBox
