import SearchBox.Apply

/- Work that writes records, seen from its result alone, and work on a query that may stop half way. -/
namespace SearchBox

namespace Logged
variable {α β : Type}

theorem value_pure (a : α) : (pure a : Logged α).value = a := rfl

theorem value_bind (x : Logged α) (f : α → Logged β) : (x >>= f).value = (f x.value).value := rfl

theorem bind_eq (x : Logged α) (f : α → Logged β) :
    x >>= f = ⟨x.records ++ (f x.value).records, (f x.value).value⟩ := rfl

theorem map_identity (x : Logged α) : id <$> x = x := by
  change Logged.mk (x.records ++ []) x.value = x
  rw [List.append_nil]

theorem bind_associative {γ : Type} (x : Logged α) (f : α → Logged β) (g : β → Logged γ) :
    x >>= f >>= g = x >>= fun a => f a >>= g := by
  change Logged.mk ((x.records ++ (f x.value).records) ++ (g (f x.value).value).records) _ =
    Logged.mk (x.records ++ ((f x.value).records ++ (g (f x.value).value).records)) _
  rw [List.append_assoc]
  rfl

instance : LawfulMonad Logged :=
  LawfulMonad.mk' Logged map_identity (fun _ _ => rfl) bind_associative

theorem value_mapM (f : α → Logged β) (xs : List α) :
    (xs.mapM f).value = xs.map fun x => (f x).value := by
  induction xs with
  | nil => rfl
  | cons x rest ih =>
    rw [List.mapM_cons, value_bind, value_bind, value_pure, ih]
    rfl

theorem records_mapM (f : α → Logged β) (xs : List α) :
    (xs.mapM f).records = xs.flatMap fun x => (f x).records := by
  induction xs with
  | nil => rfl
  | cons x rest ih =>
    rw [List.mapM_cons, bind_eq, bind_eq]
    change (f x).records ++ ((rest.mapM f).records ++ []) = _
    rw [List.append_nil, ih, List.flatMap_cons]

end Logged

theorem SearchTerm.parseLogged_value (map : ColumnMap) (tokens : List Text) :
    (parseLogged map tokens).value = parseAll map tokens := by
  induction tokens with
  | nil => rfl
  | cons token rest ih =>
    cases read : parse map token with
    | error dropped =>
      have none : parse? map token = Option.none := by rw [parse?, read]; rfl
      simp only [parseLogged, read, Logged.value_bind, ih, parseAll, List.filterMap_cons, none]
    | ok term =>
      have some : parse? map token = Option.some term := by rw [parse?, read]; rfl
      simp only [parseLogged, read, Logged.value_bind, Logged.value_pure, ih, parseAll,
        List.filterMap_cons, some]

theorem SearchTerm.classifyLogged_value (t : SearchTerm) : t.classifyLogged.value = t.classify := by
  unfold classifyLogged
  dsimp only
  split <;> rfl

theorem compileLogged_value (raw : Option Text) (map : ColumnMap) :
    (compileLogged raw map).value = compile raw map := by
  rw [compileLogged, Logged.value_bind, SearchTerm.parseLogged_value, Logged.value_mapM, compile]
  exact List.map_congr_left fun t _ => SearchTerm.classifyLogged_value t

namespace Outcome
variable {α β : Type}

def andThen (first : Outcome α) (second : α → Query → Outcome β) : Outcome β :=
  match first.result with
  | .ok a => second a first.query
  | .error fault => ⟨first.query, .error fault⟩

def withResult (o : Outcome α) (b : β) : Outcome β := ⟨o.query, o.result.map fun _ => b⟩

end Outcome

namespace Query

theorem filterByFrom_cons (debug : Bool) (count : Nat) (q : Query) (p : Predicate)
    (rest : List Predicate) :
    (q.filterByFrom debug count (p :: rest)).value =
      match (q.filterByLogged debug p).value with
      | .error fault => ⟨q, .error fault⟩
      | .ok next => (next.filterByFrom debug (count + 1) rest).value := by
  rw [filterByFrom, Logged.value_bind]
  cases (q.filterByLogged debug p).value <;> rfl

theorem filterByFrom_append (debug : Bool) (count : Nat) (q : Query) (ps rest : List Predicate) :
    (q.filterByFrom debug count (ps ++ rest)).value =
      (q.filterByFrom debug count ps).value.andThen fun reached next =>
        (next.filterByFrom debug reached rest).value := by
  induction ps generalizing count q with
  | nil => rfl
  | cons p more ih =>
    rw [List.cons_append, filterByFrom_cons, filterByFrom_cons]
    cases (q.filterByLogged debug p).value with
    | error fault => rfl
    | ok next => exact ih (count + 1) next

theorem filterByFrom_count {β : Type} (debug : Bool) (count other : Nat) (q : Query)
    (ps : List Predicate) (b : β) :
    (q.filterByFrom debug count ps).value.withResult b =
      (q.filterByFrom debug other ps).value.withResult b := by
  induction ps generalizing count other q with
  | nil => rfl
  | cons p more ih =>
    rw [filterByFrom_cons, filterByFrom_cons]
    cases (q.filterByLogged debug p).value with
    | error fault => rfl
    | ok next => exact ih (count + 1) (other + 1) next

theorem applyTokens_value (debug : Bool) (q : Query) (map : ColumnMap) (raw : Text) :
    (q.applyTokens debug map raw).value =
      (q.filterByAll debug (compile (some raw) map)).value.withResult .null := by
  simp only [applyTokens, Logged.value_bind, compileLogged_value]
  unfold Outcome.withResult
  cases (q.filterByAll debug (compile (some raw) map)).value.result <;> rfl

theorem applyColumns_value (debug : Bool) (q : Query) (names : List Text) (raw : Text) :
    (q.applyColumns debug names raw).value =
      (q.filterByAll debug (names.map (Predicate.ofPattern · ('%' :: raw ++ ['%'])))).value.withResult
        .null := by
  simp only [applyColumns, Logged.value_bind]
  unfold Outcome.withResult
  split <;> rename_i found <;> rw [found] <;> rfl

end Query
end SearchBox
