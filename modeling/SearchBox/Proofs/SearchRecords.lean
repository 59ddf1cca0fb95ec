import SearchBox.Proofs.CompiledForm
import SearchBox.Proofs.RefusedRuns

/- What a search text leaves in the records while debugging. All tokens are parsed first, all terms classified
   after that, and all predicates put on in the end, so the records of the three passes do not mix. Each token
   has one record of the first two passes, and the third one ends with the first refusal. -/
namespace SearchBox

namespace Logged

def told {α : Type} (x : Logged α) (word : Text) : Nat :=
  x.records.countP fun r => word.isPrefixOf r.message

end Logged

namespace SearchTerm

def Dropped.record (d : Dropped) : Record :=
  ⟨.debug, "quicksearch.search_expression".toList, d.message⟩

def dropped? (map : ColumnMap) (token : Text) : Option Dropped :=
  match parse map token with
  | .error dropped => some dropped
  | .ok _ => none

def Recorded (t : SearchTerm) (r : Record) : Prop :=
  ∃ words, t.classify.describe = .ok words ∧
    r = ⟨.debug, "quicksearch.search_expression".toList,
      "Classified ".toList ++ Quoted.encode t.condition ++ " on ".toList ++ Quoted.encode t.column ++
        " as ".toList ++ (Shape.ofCondition t.condition).name ++ " -> ".toList ++ words⟩

end SearchTerm

def Predicate.Recorded (q : Query) (p : Predicate) (r : Record) : Prop :=
  ∃ words, p.describe = .ok words ∧
    r = ⟨.debug, "quicksearch.emitter".toList,
      "Emitting ".toList ++ words ++ " as ".toList ++ (p.resolvedKind q).name⟩

def producedRecord (raw : Text) (count : Nat) : Record :=
  ⟨.debug, "quicksearch.quick_search".toList,
    Query.searched raw (" produced ".toList ++ Text.ofNat count ++ " predicates".toList)⟩

section Passes
variable {map : ColumnMap} {tokens : List Text} {q : Query}

theorem parseLogged_records (map : ColumnMap) (tokens : List Text) :
    (SearchTerm.parseLogged map tokens).records =
      (tokens.filterMap (SearchTerm.dropped? map)).map SearchTerm.Dropped.record := by
  induction tokens with
  | nil => rfl
  | cons token rest ih =>
    rw [SearchTerm.parseLogged, List.filterMap_cons, SearchTerm.dropped?]
    cases SearchTerm.parse map token with
    | error dropped =>
      change dropped.record :: (SearchTerm.parseLogged map rest).records = _
      rw [ih]
      rfl
    | ok term =>
      change (SearchTerm.parseLogged map rest).records ++ [] = _
      rw [List.append_nil, ih]

theorem length_dropped_add_kept (map : ColumnMap) (tokens : List Text) :
    (tokens.filterMap (SearchTerm.dropped? map)).length + (SearchTerm.parseAll map tokens).length =
      tokens.length := by
  induction tokens with
  | nil => rfl
  | cons token rest ih =>
    rw [SearchTerm.parseAll] at ih ⊢
    rw [List.filterMap_cons, List.filterMap_cons, SearchTerm.dropped?, SearchTerm.parse?]
    cases SearchTerm.parse map token with
    | error dropped =>
      simp only [Except.toOption, List.length_cons]
      omega
    | ok term =>
      simp only [Except.toOption, List.length_cons]
      omega

theorem forall₂_flatMap {α : Type} {R : α → Record → Prop} {f : α → List Record} {xs : List α}
    (each : ∀ x ∈ xs, ∃ r, R x r ∧ f x = [r]) : List.Forall₂ R xs (xs.flatMap f) := by
  induction xs with
  | nil => exact .nil
  | cons x rest ih =>
    obtain ⟨⟨r, related, one⟩, others⟩ := List.forall_mem_cons.mp each
    rw [List.flatMap_cons, one]
    exact .cons related (ih others)

theorem classifyLogged_records (t : SearchTerm) :
    ∃ r, t.Recorded r ∧ t.classifyLogged.records = [r] := by
  obtain ⟨words, described⟩ := (classify_compiled t).describe_ok
  refine ⟨_, ⟨words, described, rfl⟩, ?_⟩
  unfold SearchTerm.classifyLogged
  unfold SearchTerm.classify at described
  simp only [described]
  rfl

theorem compileLogged_records (raw : Text) (map : ColumnMap) :
    ∃ classified, List.Forall₂ SearchTerm.Recorded (SearchTerm.parseAll map (Token.tokenize raw)) classified ∧
      (compileLogged (some raw) map).records =
        ((Token.tokenize raw).filterMap (SearchTerm.dropped? map)).map SearchTerm.Dropped.record ++
          classified := by
  refine ⟨_, forall₂_flatMap fun t _ => classifyLogged_records t, ?_⟩
  rw [compileLogged, Option.getD_some, Logged.bind_eq, SearchTerm.parseLogged_value, parseLogged_records,
    Logged.records_mapM]

theorem filterByLogged_records {p : Predicate} (q : Query) (described : ∃ words, p.describe = .ok words) :
    ∃ r, p.Recorded q r ∧ (q.filterByLogged true p).records = [r] := by
  obtain ⟨words, described⟩ := described
  refine ⟨_, ⟨words, described, rfl⟩, ?_⟩
  simp only [Query.filterByLogged, described, if_true]
  rfl

end Passes

namespace Query

/-- How the last pass over the kept terms of a search goes: its records, and the outcome of the search. -/
inductive Traced (q : Query) (raw : Text) (kept : List SearchTerm) : List Record → Outcome Datum → Prop where
  | finished {rs : List Record} {last : Query}
      (each : List.Forall₂ (Predicate.Recorded q) (kept.map SearchTerm.classify) rs)
      (put : q.Takes true (kept.map SearchTerm.classify) last) :
      Traced q raw kept (rs ++ [producedRecord raw kept.length]) ⟨last, .ok .null⟩
  | refused {before after : List Predicate} {p : Predicate} {rs : List Record} {last : Query} {fault : Fault}
      (cut : kept.map SearchTerm.classify = before ++ p :: after)
      (each : List.Forall₂ (Predicate.Recorded q) (before ++ [p]) rs) (put : q.Takes true before last)
      (stop : (QueryWork.putOn true p).run last = .error fault last) :
      Traced q raw kept rs ⟨last, .error fault⟩

theorem Takes.count {debug : Bool} {q last : Query} {ps : List Predicate} (takes : q.Takes debug ps last) :
    last.count = q.count + ps.length := by
  obtain ⟨entries, entriesOf, rfl⟩ := takes.entries
  rw [Query.count, extend, List.length_append, entriesOf.length_eq]
  rfl

theorem applyTokens_records (q : Query) (map : ColumnMap) (raw : Text) :
    (q.applyTokens true map raw).records =
      (compileLogged (some raw) map).records ++ ((q.filterByAll true (compile (some raw) map)).records ++
        match (q.filterByAll true (compile (some raw) map)).value.result with
        | .error _ => []
        | .ok count => [producedRecord raw count]) := by
  rw [applyTokens, Logged.bind_eq, Logged.bind_eq, compileLogged_value]
  cases (q.filterByAll true (compile (some raw) map)).value.result <;> rfl

section Ends
variable {q last : Query} {map : ColumnMap} {raw : Text}

theorem applyTokens_finished (takes : q.Takes true (compile (some raw) map) last) :
    ∃ rs, List.Forall₂ (Predicate.Recorded q) (compile (some raw) map) rs ∧
      (q.applyTokens true map raw).records = (compileLogged (some raw) map).records ++
        (rs ++ [producedRecord raw (compile (some raw) map).length]) ∧
      (q.applyTokens true map raw).value = ⟨last, .ok .null⟩ := by
  obtain ⟨entries, entriesOf, rfl⟩ := takes.entries
  have run := filterByFrom_put true 0 entriesOf []
  rw [List.append_nil] at run
  refine ⟨_, forall₂_flatMap fun p member => filterByLogged_records q (describe_of_mem_compile p member), ?_, ?_⟩
  · rw [applyTokens_records, filterByAll, run]
    simp [filterByFrom, pure]
  · rw [applyTokens_value, filterByAll, run]
    rfl

theorem applyTokens_stopped {before after : List Predicate} {p : Predicate} {fault : Fault}
    (cut : compile (some raw) map = before ++ p :: after) (takes : q.Takes true before last)
    (stop : (QueryWork.putOn true p).run last = .error fault last) :
    ∃ rs, List.Forall₂ (Predicate.Recorded q) (before ++ [p]) rs ∧
      (q.applyTokens true map raw).records = (compileLogged (some raw) map).records ++ rs ∧
      (q.applyTokens true map raw).value = ⟨last, .error fault⟩ := by
  obtain ⟨entries, entriesOf, rfl⟩ := takes.entries
  have refused := ((QueryWork.putOn_error true).mp stop).1
  rw [entryPutOn_extend] at refused
  have run := filterByFrom_refused true 0 entriesOf refused after
  have described : ∀ b ∈ before ++ [p], ∃ words, b.describe = .ok words := by
    intro b member
    refine describe_of_mem_compile b (cut ▸ ?_ : b ∈ compile (some raw) map)
    rw [List.append_cons]
    exact List.mem_append_left after member
  refine ⟨_, forall₂_flatMap fun b member => filterByLogged_records q (described b member), ?_, ?_⟩
  · rw [applyTokens_records, filterByAll, cut, run, List.append_nil]
  · rw [applyTokens_value, filterByAll, cut, run]
    rfl

end Ends

theorem applyTokens_traced (q : Query) (map : ColumnMap) (raw : Text) :
    ∃ ended, (q.applyTokens true map raw).records = (compileLogged (some raw) map).records ++ ended ∧
      q.Traced raw (SearchTerm.parseAll map (Token.tokenize raw)) ended
        (q.applyTokens true map raw).value := by
  rcases takes_or_refused true q (compile (some raw) map) with
    ⟨last, takes⟩ | ⟨before, p, after, last, fault, state, cut, takes, stop⟩
  · obtain ⟨rs, each, records, value⟩ := applyTokens_finished takes
    refine ⟨_, records, ?_⟩
    rw [value, compile, List.length_map]
    exact .finished each takes
  · obtain ⟨_, rfl⟩ := (QueryWork.putOn_error true).mp stop
    obtain ⟨rs, each, records, value⟩ := applyTokens_stopped cut takes stop
    refine ⟨rs, records, ?_⟩
    rw [value]
    exact .refused cut each takes stop

end Query

def openings : List Text :=
  ["Dropping ".toList, "Classified ".toList, "Emitting ".toList, "Quick search ".toList]

section Openings
variable {opening word : Text} {r : Record}

theorem isPrefixOf_message (known : opening ∈ openings) (asked : word ∈ openings)
    (opens : opening <+: r.message) : word.isPrefixOf r.message = decide (opening = word) := by
  by_cases same : opening = word
  · rw [decide_eq_true same, ← same, List.isPrefixOf_iff_prefix]
    exact opens
  · rw [decide_eq_false same, ← Bool.not_eq_true, List.isPrefixOf_iff_prefix]
    intro other
    -- the words differ in their first letter already
    have letters : ∀ o ∈ openings, ∀ w ∈ openings, o.head? = w.head? → o = w := by decide
    have filled : ∀ o ∈ openings, o ≠ [] := by decide
    have first {o : Text} (member : o ∈ openings) (prefixed : o <+: r.message) :
        o.head? = r.message.head? := by
      obtain ⟨rest, split⟩ := prefixed
      rw [← split, List.head?_append_of_ne_nil o (filled o member)]
    exact same (letters opening known word asked ((first known opens).trans (first asked other).symm))

/-- Records that belong to the items of a list, and that all begin with one word. -/
theorem countP_recorded {α : Type} {R : α → Record → Prop} {xs : List α} {rs : List Record}
    (known : opening ∈ openings) (asked : word ∈ openings) (opens : ∀ a r, R a r → opening <+: r.message)
    (each : List.Forall₂ R xs rs) :
    (rs.countP fun r => word.isPrefixOf r.message) = if opening = word then xs.length else 0 := by
  induction each with
  | nil => simp
  | @cons a r more others first rest ih =>
    rw [List.countP_cons, ih, isPrefixOf_message known asked (opens a r first)]
    by_cases same : opening = word
    · simp [same]
    · simp [same]

theorem dropped_opens (d : SearchTerm.Dropped) : "Dropping ".toList <+: d.record.message := by
  cases d with
  | unbound token =>
    have start : "Dropping ".toList <+: "Dropping token without a column binding: ".toList := by decide
    dsimp only [SearchTerm.Dropped.record, SearchTerm.Dropped.message]
    exact start.trans (List.prefix_append _ _)
  | unknownColumn key token =>
    have start : "Dropping ".toList <+: "Dropping token for unknown column ".toList := by decide
    dsimp only [SearchTerm.Dropped.record, SearchTerm.Dropped.message]
    rw [List.append_assoc, List.append_assoc]
    exact start.trans (List.prefix_append _ _)

theorem classified_opens (t : SearchTerm) (r : Record) (recorded : t.Recorded r) :
    "Classified ".toList <+: r.message := by
  obtain ⟨words, _, rfl⟩ := recorded
  dsimp only
  simp only [List.append_assoc, List.prefix_append]

theorem emitting_opens (q : Query) (p : Predicate) (r : Record) (recorded : p.Recorded q r) :
    "Emitting ".toList <+: r.message := by
  obtain ⟨words, _, rfl⟩ := recorded
  dsimp only
  rw [List.append_assoc, List.append_assoc]
  exact List.prefix_append _ _

theorem produced_opens (raw : Text) (count : Nat) :
    "Quick search ".toList <+: (producedRecord raw count).message := by
  dsimp only [producedRecord, Query.searched]
  rw [List.append_assoc]
  exact List.prefix_append _ _

end Openings

namespace Query
variable {q : Query} {raw : Text} {kept : List SearchTerm} {ended : List Record} {o : Outcome Datum}

theorem Traced.count_other (traced : q.Traced raw kept ended o) {word : Text} (asked : word ∈ openings)
    (other : word ≠ "Emitting ".toList ∧ word ≠ "Quick search ".toList) :
    (ended.countP fun r => word.isPrefixOf r.message) = 0 := by
  have emitting : "Emitting ".toList ∈ openings := by decide
  have produced : "Quick search ".toList ∈ openings := by decide
  cases traced with
  | finished each put =>
    rw [List.countP_append, countP_recorded emitting asked (emitting_opens q) each,
      if_neg other.1.symm, List.countP_singleton,
      isPrefixOf_message produced asked (produced_opens raw kept.length), decide_eq_false other.2.symm]
    rfl
  | refused cut each put stop =>
    rw [countP_recorded emitting asked (emitting_opens q) each, if_neg other.1.symm]

/-- The predicate that is refused has a record and no filter. -/
theorem Traced.count_emitting (traced : q.Traced raw kept ended o) :
    (ended.countP fun r => "Emitting ".toList.isPrefixOf r.message) + q.count =
      o.query.count + match o.result with
        | .ok _ => 0
        | .error _ => 1 := by
  have emitting : "Emitting ".toList ∈ openings := by decide
  have produced : "Quick search ".toList ∈ openings := by decide
  cases traced with
  | finished each put =>
    rw [List.countP_append, countP_recorded emitting emitting (emitting_opens q) each, if_pos rfl,
      List.countP_singleton, isPrefixOf_message produced emitting (produced_opens raw kept.length),
      decide_eq_false (by decide), put.count]
    simp only [Bool.false_eq_true, if_false]
    omega
  | refused cut each put stop =>
    rw [countP_recorded emitting emitting (emitting_opens q) each, if_pos rfl, put.count,
      List.length_append, List.length_singleton]
    dsimp only
    omega

theorem Traced.result (traced : q.Traced raw kept ended o) :
    o.result = .ok .null ∨ ∃ fault, o.result = .error fault := by
  cases traced with
  | finished => exact Or.inl rfl
  | @refused _ _ _ _ _ fault => exact Or.inr ⟨fault, rfl⟩

theorem applyTokens_told (q : Query) (map : ColumnMap) (raw : Text) {word : Text} (asked : word ∈ openings)
    (records : (q.applyTokens true map raw).records = (compileLogged (some raw) map).records ++ ended) :
    (q.applyTokens true map raw).told word =
      (if "Dropping ".toList = word then
          ((Token.tokenize raw).filterMap (SearchTerm.dropped? map)).length else 0) +
        (if "Classified ".toList = word then
          (SearchTerm.parseAll map (Token.tokenize raw)).length else 0) +
        ended.countP fun r => word.isPrefixOf r.message := by
  obtain ⟨classified, recorded, compiled⟩ := compileLogged_records raw map
  have dropped : List.Forall₂ (fun d r => r = SearchTerm.Dropped.record d)
      ((Token.tokenize raw).filterMap (SearchTerm.dropped? map))
      (((Token.tokenize raw).filterMap (SearchTerm.dropped? map)).map SearchTerm.Dropped.record) := by
    rw [List.forall₂_map_right_iff, List.forall₂_same]
    exact fun _ _ => rfl
  have opens (d : SearchTerm.Dropped) (r : Record) (same : r = d.record) : "Dropping ".toList <+: r.message :=
    same ▸ dropped_opens d
  rw [Logged.told, records, compiled, List.countP_append, List.countP_append,
    countP_recorded (by decide) asked opens dropped,
    countP_recorded (by decide) asked classified_opens recorded]

/-- What a search with a text records while debugging: the dropped tokens, how each kept term is classified,
    the predicates up to the first that is refused, and their number if none is. No token is without a
    record, and there is one predicate more in the records than filters were put on if the search was refused. -/
theorem applySearch_records (q : Query) (map : ColumnMap) (raw : Text) :
    let tokens := Token.tokenize raw
    let kept := SearchTerm.parseAll map tokens
    let search := q.applySearch true .tokens map raw
    (∃ classified ended,
      search.records =
          (tokens.filterMap (SearchTerm.dropped? map)).map SearchTerm.Dropped.record ++ classified ++ ended ∧
        List.Forall₂ SearchTerm.Recorded kept classified ∧ q.Traced raw kept ended search.value) ∧
      search.told "Dropping ".toList + search.told "Classified ".toList = tokens.length ∧
      (search.told "Emitting ".toList + q.count = search.value.query.count + 1 ↔
        ∃ fault, search.value.result = .error fault) ∧
      (search.told "Emitting ".toList + q.count = search.value.query.count ↔
        search.value.result = .ok .null) := by
  intro tokens kept search
  obtain ⟨classified, recorded, compiled⟩ := compileLogged_records raw map
  obtain ⟨ended, records, traced⟩ := applyTokens_traced q map raw
  have dropping : search.told "Dropping ".toList = (tokens.filterMap (SearchTerm.dropped? map)).length := by
    have told := applyTokens_told q map raw (by decide : "Dropping ".toList ∈ openings) records
    rwa [if_pos rfl, if_neg (by decide), traced.count_other (by decide) (by decide)] at told
  have classifying : search.told "Classified ".toList = kept.length := by
    have told := applyTokens_told q map raw (by decide : "Classified ".toList ∈ openings) records
    rwa [if_neg (by decide), if_pos rfl, traced.count_other (by decide) (by decide), Nat.zero_add] at told
  have emitting : search.told "Emitting ".toList + q.count =
      search.value.query.count + match search.value.result with
        | .ok _ => 0
        | .error _ => 1 := by
    have told := applyTokens_told q map raw (by decide : "Emitting ".toList ∈ openings) records
    rw [if_neg (by decide), if_neg (by decide), Nat.zero_add] at told
    exact told ▸ traced.count_emitting
  refine ⟨⟨classified, ended, compiled ▸ records, recorded, traced⟩, ?_, ?_⟩
  · rw [dropping, classifying]
    exact length_dropped_add_kept map tokens
  · rw [emitting]
    rcases traced.result with done | ⟨fault, refused⟩
    · have result : search.value.result = .ok .null := done
      simp [result]
    · have result : search.value.result = .error fault := refused
      simp [result]

end Query

end SearchBox
