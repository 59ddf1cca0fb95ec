import Mathlib.Logic.Basic
import SearchBox.Proofs.RefusedRuns

/- Two runs side by side. Predicates that differ in their connective, put on one query, have the same clause
   or the same refusal; predicates put on queries of two dialects end at the same place, and their clauses
   differ where the dialect has a word of its own for them. -/
namespace SearchBox

/-- Two attempts that are refused for the same reason, or whose results go together. -/
inductive Alike {α β : Type} (R : α → β → Prop) : Except Fault α → Except Fault β → Prop where
  | refused (fault : Fault) : Alike R (.error fault) (.error fault)
  | done {a : α} {b : β} (together : R a b) : Alike R (.ok a) (.ok b)

namespace Alike
variable {α β γ δ : Type} {R : α → β → Prop} {S : γ → δ → Prop}

theorem bind {x : Except Fault α} {y : Except Fault β} {f : α → Except Fault γ} {g : β → Except Fault δ}
    (first : Alike R x y) (next : ∀ a b, R a b → Alike S (f a) (g b)) : Alike S (x.bind f) (y.bind g) := by
  cases first with
  | refused fault => exact .refused fault
  | done together => exact next _ _ together

theorem bind_same (x : Except Fault α) {f : α → Except Fault γ} {g : α → Except Fault δ}
    (next : ∀ a, x = .ok a → Alike S (f a) (g a)) : Alike S (x.bind f) (x.bind g) := by
  cases x with
  | error fault => exact .refused fault
  | ok a => exact next a rfl

theorem same {R : α → α → Prop} (x : Except Fault α) (each : ∀ a, x = .ok a → R a a) : Alike R x x := by
  cases x with
  | error fault => exact .refused fault
  | ok a => exact .done (each a rfl)

theorem map {x : Except Fault α} {y : Except Fault β} {f : α → γ} {g : β → δ} (alike : Alike R x y)
    (each : ∀ a b, R a b → S (f a) (g b)) : Alike S (x.map f) (y.map g) := by
  cases alike with
  | refused fault => exact .refused fault
  | done together => exact .done (each _ _ together)

theorem exists_common_prefix {ι : Type} {R : ι → α → β → Prop} {f : ι → Except Fault α}
    {g : ι → Except Fault β} (each : ∀ i, Alike (R i) (f i) (g i)) (items : List ι) :
    ∃ before pairs, List.Forall₂
        (fun i (pair : α × β) => f i = .ok pair.1 ∧ g i = .ok pair.2 ∧ R i pair.1 pair.2) before pairs ∧
      (items = before ∨ ∃ i rest fault, items = before ++ i :: rest ∧ f i = .error fault ∧
        g i = .error fault) := by
  induction items with
  | nil => exact ⟨[], [], .nil, Or.inl rfl⟩
  | cons i rest ih =>
    have here := each i
    generalize left : f i = x at here
    generalize right : g i = y at here
    cases here with
    | refused fault => exact ⟨[], [], .nil, Or.inr ⟨i, rest, fault, rfl, left, right⟩⟩
    | @done a b together =>
      obtain ⟨before, pairs, put, stop⟩ := ih
      refine ⟨i :: before, (a, b) :: pairs, .cons ⟨left, right, together⟩ put, ?_⟩
      rcases stop with rfl | ⟨last, after, fault, rfl, refused⟩
      · exact Or.inl rfl
      · exact Or.inr ⟨last, after, fault, rfl, refused⟩

end Alike

namespace Predicate

theorem describe_alike (p : Predicate) (one other : Bool) :
    Alike (fun _ _ => True) ({ p with isOr := one } : Predicate).describe
      ({ p with isOr := other } : Predicate).describe := by
  have written {s t : Text} : Alike (fun _ _ => True) (.ok s) (.ok t) := .done trivial
  unfold describe
  cases p.kind with
  | between => exact .bind_same _ fun _ _ => .bind_same _ fun _ _ => written
  | datePart =>
    cases p.datePart with
    | none => exact .refused .missingPart
    | some part => exact .bind_same _ fun _ _ => written
  | isIn | notIn | basic | like | ilike | regexp => exact .bind_same _ fun _ _ => written

def JoinedBoth (e f : Entry Clause) : Prop := ∃ clause, e = ⟨.and, clause⟩ ∧ f = ⟨.or, clause⟩

theorem entryPutOn_alike (debug : Bool) (q : Query) (p : Predicate) :
    Alike JoinedBoth (({ p with isOr := false } : Predicate).entryPutOn debug q)
      (({ p with isOr := true } : Predicate).entryPutOn debug q) := by
  have entry : Alike JoinedBoth (({ p with isOr := false } : Predicate).entryOn q)
      (({ p with isOr := true } : Predicate).entryOn q) := by
    rw [entryOn_eq, entryOn_eq]
    -- neither the call nor its clause looks at the connective
    change Alike JoinedBoth (((p.filterCall q).bind q.clause).map fun clause => ⟨.and, clause⟩)
      (((p.filterCall q).bind q.clause).map fun clause => ⟨.or, clause⟩)
    cases (p.filterCall q).bind q.clause with
    | error fault => exact .refused fault
    | ok clause => exact .done ⟨clause, rfl, rfl⟩
  cases debug with
  | false => exact entry
  | true => exact (p.describe_alike false true).bind fun _ _ _ => entry

end Predicate

/-- A predicate of any kind, put on any query as an AND and as an OR, is refused both times for the same
    reason and leaves the query as it is, or puts the same clause on, joined by the one and by the other. -/
theorem QueryWork.putOn_flag (debug : Bool) (q : Query) (p : Predicate) :
    (∃ fault, ∀ isOr, (putOn debug { p with isOr }).run q = .error fault q) ∨
      ∃ clause, ∀ isOr,
        (putOn debug { p with isOr }).run q = .ok () (q.append ⟨if isOr then .or else .and, clause⟩) := by
  have alike := p.entryPutOn_alike debug q
  generalize asAnd : ({ p with isOr := false } : Predicate).entryPutOn debug q = x at alike
  generalize asOr : ({ p with isOr := true } : Predicate).entryPutOn debug q = y at alike
  cases alike with
  | refused fault =>
    refine Or.inl ⟨fault, ?_⟩
    intro isOr
    cases isOr
    · exact (putOn_error debug).mpr ⟨asAnd, rfl⟩
    · exact (putOn_error debug).mpr ⟨asOr, rfl⟩
  | done together =>
    obtain ⟨clause, rfl, rfl⟩ := together
    refine Or.inr ⟨clause, ?_⟩
    intro isOr
    cases isOr
    · exact (putOn_ok debug).mpr ⟨_, asAnd, rfl⟩
    · exact (putOn_ok debug).mpr ⟨_, asOr, rfl⟩

section Dialects

def patternStyle (dialect : Text) : MatchStyle :=
  if dialect = "postgresql".toList then .ilike else .like

def momentForm (dialect : Text) : PartForm :=
  if dialect = "sqlite".toList then .function else .conversion

/-- The clauses that `p` has under the dialects `c` and `d`. They are one and the same, except for a pattern
    where one of the two ignores case, and for a date or a time where one of the two has functions. -/
inductive Counterparts (c d : Text) (p : Predicate) : Clause → Clause → Prop where
  | same {clause : Clause}
      (noPattern : p.kind = .like → ¬ Xor (c = "postgresql".toList) (d = "postgresql".toList))
      (noMoment : p.kind = .datePart → p.datePart = some .date ∨ p.datePart = some .time →
        ¬ Xor (c = "sqlite".toList) (d = "sqlite".toList)) :
      Counterparts c d p clause clause
  | pattern (kind : p.kind = .like) (one : Xor (c = "postgresql".toList) (d = "postgresql".toList))
      (field : Field) (value : Operand) :
      Counterparts c d p (.matching field (patternStyle c) value) (.matching field (patternStyle d) value)
  | moment {part : DatePart} (kind : p.kind = .datePart) (named : p.datePart = some part)
      (whole : part = .date ∨ part = .time) (one : Xor (c = "sqlite".toList) (d = "sqlite".toList))
      (field : Field) (value : Operand) :
      Counterparts c d p (.part field part (momentForm c) value) (.part field part (momentForm d) value)

variable {q r : Query} {p : Predicate}

theorem Predicate.filterCall_congr (notLike : p.kind ≠ .like) (q r : Query) :
    p.filterCall q = p.filterCall r := by
  simp only [filterCall, resolvedKind, notLike, false_and, if_false]

theorem Predicate.kind_of_datePart {part value : Operand} {column : Text}
    (calls : p.filterCall q = .ok (.datePart part column value)) : p.kind = .datePart := by
  unfold filterCall at calls
  cases asked : p.resolvedKind q with
  | datePart =>
    rw [resolvedKind] at asked
    split at asked
    · cases asked
    · exact asked
  | isIn | notIn | between => simp [asked] at calls
  | like | ilike | regexp | basic =>
    rw [asked] at calls
    obtain ⟨_, _, other⟩ := map_ok calls
    cases other

theorem Query.clause_congr (tables : q.table = r.table) (notPart : p.kind ≠ .datePart) {c : FilterCall}
    (calls : p.filterCall q = .ok c) : q.clause c = r.clause c := by
  cases c with
  | datePart part column value => exact absurd (Predicate.kind_of_datePart calls) notPart
  | compare | isIn | notIn | between | like | ilike | regexp =>
    simp only [clause, compareClause, memberClause, betweenClause, tables]

theorem patternStyle_congr {c d : Text} (same : ¬ Xor (c = "postgresql".toList) (d = "postgresql".toList)) :
    patternStyle c = patternStyle d := by
  simp only [patternStyle, (not_xor _ _).mp same]

theorem momentForm_congr {c d : Text} (same : ¬ Xor (c = "sqlite".toList) (d = "sqlite".toList)) :
    momentForm c = momentForm d := by
  simp only [momentForm, (not_xor _ _).mp same]

theorem Operator.clause_pattern (dialect : Text) (field : Field) (value : Operand) :
    (Operator.matching (patternStyle dialect)).clause field value =
      if value = .null then .error .nullOperand
      else .ok (.matching field (patternStyle dialect) value) := by
  have strict : (Operator.matching (patternStyle dialect)).takesNull = false := by
    unfold patternStyle
    split <;> rfl
  rw [clause]
  simp only [strict, and_true]

theorem Predicate.pattern_clause (kind : p.kind = .like) (q : Query) :
    (p.filterCall q).bind q.clause =
      (p.operand 0).bind fun value => (q.table.field p.column).bind fun field =>
        (Operator.matching (patternStyle q.dialect)).clause field value := by
  have asked : p.resolvedKind q = if q.dialect = "postgresql".toList then .ilike else .like := by
    simp only [resolvedKind, kind, Query.prefersIlike, true_and, decide_eq_true_eq]
  rw [filterCall, asked, patternStyle]
  by_cases ignoring : q.dialect = "postgresql".toList
  · rw [if_pos ignoring, if_pos ignoring]
    cases p.operand 0 with
    | error fault => rfl
    | ok value => exact q.compareClause_of_operator Operator.ofName?_ilike (.text p.column) value
  · rw [if_neg ignoring, if_neg ignoring]
    cases p.operand 0 with
    | error fault => rfl
    | ok value => exact q.compareClause_of_operator Operator.ofName?_like (.text p.column) value

theorem Predicate.moment_clause (kind : p.kind = .datePart) (q : Query) :
    (p.filterCall q).bind q.clause =
      (p.operand 0).bind fun value => (DatePart.ofOperand p.partOperand).bind fun part =>
        (Query.partValue part value).bind fun v => (q.table.field p.column).bind fun field =>
          .ok (.part field part (q.partForm part) v) := by
  have asked : p.resolvedKind q = .datePart := by
    simp [resolvedKind, kind]
  rw [filterCall, asked]
  cases p.operand 0 with
  | error fault => rfl
  | ok value => rfl

theorem Predicate.pattern_alike (tables : q.table = r.table) (kind : p.kind = .like) :
    Alike (Counterparts q.dialect r.dialect p) ((p.filterCall q).bind q.clause)
      ((p.filterCall r).bind r.clause) := by
  rw [pattern_clause kind q, pattern_clause kind r, tables]
  refine .bind_same _ fun value _ => .bind_same _ fun field _ => ?_
  rw [Operator.clause_pattern, Operator.clause_pattern]
  split
  · exact .refused .nullOperand
  · by_cases one : Xor (q.dialect = "postgresql".toList) (r.dialect = "postgresql".toList)
    · exact .done (.pattern kind one field value)
    · rw [patternStyle_congr one]
      have noMoment : p.kind ≠ .datePart := by simp [kind]
      exact .done (.same (fun _ => one) fun moment => absurd moment noMoment)

theorem Query.partForm_of_whole {part : DatePart} (whole : part = .date ∨ part = .time) (q : Query) :
    q.partForm part = momentForm q.dialect := by
  rcases whole with rfl | rfl <;> rfl

theorem Query.partForm_of_numeric {part : DatePart} (numeric : ¬ (part = .date ∨ part = .time)) (q : Query) :
    q.partForm part = .number := by
  cases part with
  | day | month | year => rfl
  | date | time => simp at numeric

theorem Predicate.moment_alike (tables : q.table = r.table) (kind : p.kind = .datePart) :
    Alike (Counterparts q.dialect r.dialect p) ((p.filterCall q).bind q.clause)
      ((p.filterCall r).bind r.clause) := by
  rw [moment_clause kind q, moment_clause kind r, tables]
  refine .bind_same _ fun value _ => .bind_same _ fun part named => .bind_same _ fun v _ =>
    .bind_same _ fun field _ => ?_
  have partOf : p.datePart = some part := by
    revert named
    rw [partOperand]
    cases p.datePart with
    | none => exact nofun
    | some given => cases given <;> exact fun named => congrArg some (Except.ok.inj named)
  have noPattern : p.kind ≠ .like := by simp [kind]
  by_cases whole : part = .date ∨ part = .time
  · rw [Query.partForm_of_whole whole, Query.partForm_of_whole whole]
    by_cases one : Xor (q.dialect = "sqlite".toList) (r.dialect = "sqlite".toList)
    · exact .done (.moment kind partOf whole one field v)
    · rw [momentForm_congr one]
      exact .done (.same (fun pattern => absurd pattern noPattern) fun _ _ => one)
  · rw [Query.partForm_of_numeric whole, Query.partForm_of_numeric whole]
    refine .done (.same (fun pattern => absurd pattern noPattern) ?_)
    intro _ named
    rw [partOf] at named
    exact absurd (by simpa using named) whole

theorem Predicate.clause_alike (tables : q.table = r.table) (p : Predicate) :
    Alike (Counterparts q.dialect r.dialect p) ((p.filterCall q).bind q.clause)
      ((p.filterCall r).bind r.clause) := by
  by_cases pattern : p.kind = .like
  · exact pattern_alike tables pattern
  by_cases moment : p.kind = .datePart
  · exact moment_alike tables moment
  rw [filterCall_congr pattern r q]
  refine .bind_same _ fun c calls => ?_
  rw [Query.clause_congr tables moment calls]
  exact .same _ fun clause _ => .same (fun kind => absurd kind pattern) fun kind => absurd kind moment

theorem Counterparts.eq_of_basic {c d : Text} {one other : Clause} (pair : Counterparts c d p one other)
    (kind : p.kind = .basic) : one = other := by
  cases pair with
  | same => rfl
  | pattern like => simp [kind] at like
  | moment part => simp [kind] at part

/-- The filters that a predicate has under two dialects. A comparison is the same filter under every dialect,
    also where it looks for a pattern. -/
structure Companions (c d : Text) (p : Predicate) (e f : Entry Clause) : Prop where
  connective : e.connective = f.connective
  clause : Counterparts c d p e.item f.item
  comparison : p.kind = .basic → e = f

theorem Predicate.entryPutOn_dialects (debug : Bool) (tables : q.table = r.table) (p : Predicate) :
    Alike (Companions q.dialect r.dialect p) (p.entryPutOn debug q) (p.entryPutOn debug r) := by
  have entry : Alike (Companions q.dialect r.dialect p) (p.entryOn q) (p.entryOn r) := by
    rw [entryOn_eq, entryOn_eq]
    refine (clause_alike tables p).map fun one other pair => ⟨rfl, pair, ?_⟩
    intro kind
    rw [pair.eq_of_basic kind]
  cases debug with
  | false => exact entry
  | true => exact .bind_same p.describe fun _ _ => entry

end Dialects

namespace Query
variable {debug : Bool} {q : Query} {before : List Predicate} {entries : List (Entry Clause)}

/-- How a run ends that has put `entries` on for the predicates `before`: with no predicate left, or with the
    refusal of the next one. -/
inductive Ends (debug : Bool) (q : Query) (before : List Predicate) (entries : List (Entry Clause)) :
    List Predicate → Option Fault → Prop where
  | finished
      (run : (QueryWork.putAllOn debug before).run q = .ok before.length (q.extend entries)) :
      Ends debug q before entries [] none
  | refused {p : Predicate} {after : List Predicate} {fault : Fault}
      (first : (QueryWork.putAllOn debug before).run q = .ok before.length (q.extend entries))
      (stop : (QueryWork.putOn debug p).run (q.extend entries) = .error fault (q.extend entries))
      (run : (QueryWork.putAllOn debug (before ++ p :: after)).run q = .error fault (q.extend entries)) :
      Ends debug q before entries (p :: after) (some fault)

theorem ends_of_refusal (entriesOf : List.Forall₂ (fun p e => p.entryPutOn debug q = .ok e) before entries)
    {p : Predicate} {fault : Fault} (cause : p.entryPutOn debug q = .error fault) (after : List Predicate) :
    Ends debug q before entries (p :: after) (some fault) := by
  have stop : (QueryWork.putOn debug p).run (q.extend entries) = .error fault (q.extend entries) :=
    (QueryWork.putOn_error debug).mpr ⟨cause, rfl⟩
  exact .refused (putAllOn_ok entriesOf) stop (putAllOn_refused entriesOf cause after)

/-- Predicates put on fresh queries of one table under two dialects. Both runs end at the same predicate and
    in the same way, and the filters up to there are companions. -/
theorem putAllOn_dialects (debug : Bool) (table : Table) (c d : Option Text) (ps : List Predicate) :
    ∃ before after pairs refusal, ps = before ++ after ∧
      List.Forall₂ (fun p (pair : Entry Clause × Entry Clause) =>
        Companions (c.getD []).lower (d.getD []).lower p pair.1 pair.2) before pairs ∧
      (start table c).Ends debug before (pairs.map Prod.fst) after refusal ∧
      (start table d).Ends debug before (pairs.map Prod.snd) after refusal := by
  obtain ⟨before, pairs, put, stop⟩ := Alike.exists_common_prefix
    (fun p => p.entryPutOn_dialects debug (q := start table c) (r := start table d) rfl) ps
  have companions := put.imp fun p pair both => both.2.2
  have left : List.Forall₂ (fun p e => p.entryPutOn debug (start table c) = .ok e) before
      (pairs.map Prod.fst) := by
    rw [List.forall₂_map_right_iff]
    exact put.imp fun p pair both => both.1
  have right : List.Forall₂ (fun p e => p.entryPutOn debug (start table d) = .ok e) before
      (pairs.map Prod.snd) := by
    rw [List.forall₂_map_right_iff]
    exact put.imp fun p pair both => both.2.1
  rcases stop with rfl | ⟨p, after, fault, rfl, refusedLeft, refusedRight⟩
  · exact ⟨ps, [], pairs, none, (List.append_nil ps).symm, companions, .finished (putAllOn_ok left),
      .finished (putAllOn_ok right)⟩
  · exact ⟨before, p :: after, pairs, some fault, rfl, companions, ends_of_refusal left refusedLeft after,
      ends_of_refusal right refusedRight after⟩

end Query
end SearchBox
