import SearchBox.Connection.Url

/- Which value each part of an address has. The places where a part can be given are asked in turn, and an
   empty value is passed over as if it were not there; but an empty variable of the shared name also keeps
   the file of parts from being asked. -/
namespace SearchBox.Connection

def filled? (value : Option Text) : Option Text := value.filter (· ≠ [])

/-- The first value that is there and is not empty. -/
def firstFilled (values : List (Option Text)) : Option Text := values.findSome? filled?

theorem filled?_some {v : Text} (some : v ≠ []) : filled? (.some v) = .some v := by
  rw [filled?, Option.filter_some, if_pos (by simpa using some)]

theorem nonEmpty?_eq (env : Environment) (name : Text) : env.nonEmpty? name = filled? (env.find? name) := by
  unfold Environment.nonEmpty?
  split
  · rename_i c t found
    rw [found, filled?_some (List.cons_ne_nil c t)]
  · rename_i other
    match found : env.find? name with
    | none => rfl
    | some [] => rfl
    | some (c :: t) => exact absurd found (other c t)

namespace Source

def all : List Source := [userSource, passwordSource, nameSource, hostSource, portSource]

def candidates (s : Source) (env : Environment) (file : Assoc Text) : List (Option Text) :=
  [env.find? s.own, env.find? s.shared, file.find? s.own, some s.standard]

/-- An empty variable of the shared name stands before a value in the file that would make a difference. -/
structure Shadowed (s : Source) (env : Environment) (file : Assoc Text) : Prop where
  own : env.nonEmpty? s.own = none
  shared : env.find? s.shared = some []
  inFile : ∃ v, file.find? s.own = some v ∧ v ≠ [] ∧ v ≠ s.standard

variable {s : Source} {env : Environment} {file : Assoc Text}

theorem standard_ne_nil (member : s ∈ all) : s.standard ≠ [] := by
  revert s
  decide

theorem value_ne_nil (member : s ∈ all) (env : Environment) (file : Assoc Text) : s.value env file ≠ [] := by
  unfold value
  dsimp only
  split
  · exact List.cons_ne_nil _ _
  · exact standard_ne_nil member

theorem value_of_own {v : Text} (own : env.nonEmpty? s.own = some v) : s.value env file = v := by
  have some : v ≠ [] := by
    rintro rfl
    rw [nonEmpty?_eq, filled?] at own
    simpa using Option.filter_eq_some_iff.mp own
  obtain ⟨c, t, rfl⟩ := List.exists_cons_of_ne_nil some
  rw [value, own]

theorem value_of_shared {v : Text} (own : env.nonEmpty? s.own = none) (shared : env.find? s.shared = some v) :
    s.value env file = (filled? (some v)).getD s.standard := by
  rw [value, own, shared]
  cases v <;> rfl

theorem value_of_file (own : env.nonEmpty? s.own = none) (shared : env.find? s.shared = none) :
    s.value env file = (filled? (file.find? s.own)).getD s.standard := by
  rw [value, own, shared]
  match file.find? s.own with
  | none => rfl
  | some [] => rfl
  | some (c :: t) => rfl

theorem firstFilled_candidates (some : s.standard ≠ []) (env : Environment) (file : Assoc Text) :
    firstFilled (s.candidates env file) =
      Option.some ((((env.nonEmpty? s.own).or (filled? (env.find? s.shared))).or
        (filled? (file.find? s.own))).getD s.standard) := by
  rw [firstFilled, candidates, nonEmpty?_eq]
  simp only [List.findSome?_cons, filled?_some some]
  cases filled? (env.find? s.own) <;> cases filled? (env.find? s.shared) <;>
    cases filled? (file.find? s.own) <;> rfl

theorem standard_iff (own : env.nonEmpty? s.own = none) (shared : env.find? s.shared = some []) :
    (filled? (file.find? s.own)).getD s.standard = s.standard ↔ ¬ s.Shadowed env file := by
  constructor
  · intro standard shadowed
    obtain ⟨v, found, some, other⟩ := shadowed.inFile
    rw [found, filled?_some some] at standard
    exact other standard
  · intro open_
    match found : file.find? s.own with
    | none => rfl
    | some [] => rfl
    | some (c :: t) =>
      refine Classical.byContradiction fun other => open_ ⟨own, shared, c :: t, found, List.cons_ne_nil c t, ?_⟩
      intro same
      rw [same, filled?_some (same ▸ List.cons_ne_nil c t)] at other
      exact other rfl

theorem value_eq_firstFilled (some : s.standard ≠ []) :
    firstFilled (s.candidates env file) = Option.some (s.value env file) ↔ ¬ s.Shadowed env file := by
  rw [firstFilled_candidates some, Option.some.injEq]
  cases own : env.nonEmpty? s.own with
  | some v =>
    rw [value_of_own own]
    exact iff_of_true rfl fun shadowed => by simp [shadowed.own] at own
  | none =>
    cases shared : env.find? s.shared with
    | none =>
      rw [value_of_file own shared]
      exact iff_of_true rfl fun shadowed => by simp [shadowed.shared] at shared
    | some v =>
      rw [value_of_shared own shared]
      by_cases empty : v = []
      · rw [empty]
        exact standard_iff own (by rw [shared, empty])
      · rw [filled?_some empty]
        exact iff_of_true rfl fun shadowed => by
          rw [shadowed.shared] at shared
          exact empty (Option.some.inj shared).symm

theorem value_of_shadowed (shadowed : s.Shadowed env file) : s.value env file = s.standard :=
  value_of_shared shadowed.own shadowed.shared

end Source

theorem url_of_unset {env : Environment} (unset : env.nonEmpty? "DATABASE_URL".toList = none)
    (parts : FileContent) : url env parts = assembled env (partsOfFile parts) := by
  unfold url
  rw [unset]

/-- Without an address as a whole, it is put together from its parts, and each part has the first value that is
    there and is not empty, with one exception: if the variable of the shared name is there and empty,
    the file of parts is not asked, and a value in it gives way to the standard. -/
theorem url_parts {env : Environment} (unset : env.nonEmpty? "DATABASE_URL".toList = none)
    (parts : FileContent) :
    let file := partsOfFile parts
    let value (s : Source) : Text := s.value env file
    url env parts =
        "postgresql+psycopg://".toList ++ value userSource ++
          ':' :: Percent.encode (value passwordSource) ++ '@' :: value hostSource ++
          ':' :: value portSource ++ '/' :: value nameSource ∧
      ∀ s ∈ Source.all,
        (firstFilled (s.candidates env file) = some (value s) ↔ ¬ s.Shadowed env file) ∧
          (s.Shadowed env file → value s = s.standard) := by
  intro file value
  refine ⟨url_of_unset unset parts, ?_⟩
  intro s member
  exact ⟨Source.value_eq_firstFilled (Source.standard_ne_nil member), Source.value_of_shadowed⟩

section Settings

def readerFile : FileContent := some (Utf8.encode "\x7b\"DB_USER\": \"reader\"\x7d".toList)

theorem partsOfFile_reader : partsOfFile readerFile = [("DB_USER".toList, "reader".toList)] := by
  decide +kernel

theorem url_parts_reader :
    let env : Environment := [("DB_USER".toList, []), ("PGHOST".toList, [])]
    let file := partsOfFile readerFile
    env.nonEmpty? "DATABASE_URL".toList = none ∧
      firstFilled (userSource.candidates env file) = some (userSource.value env file) ∧
      userSource.value env file = "reader".toList := by
  intro env file
  have unset : env.nonEmpty? "DATABASE_URL".toList = none := by decide
  have asked : ¬ userSource.Shadowed env file := fun shadowed => absurd shadowed.shared (by decide)
  have parts := (url_parts unset readerFile).2 userSource (by decide)
  refine ⟨unset, parts.1.mpr asked, ?_⟩
  dsimp only [file]
  rw [partsOfFile_reader]
  decide

theorem empty_variable_hides_file :
    ¬ ∀ (env : Environment) (parts : FileContent), env.nonEmpty? "DATABASE_URL".toList = none →
        ∀ s ∈ Source.all, firstFilled (s.candidates env (partsOfFile parts)) =
          some (s.value env (partsOfFile parts)) := by
  intro all
  have first := all [("PGUSER".toList, [])] readerFile (by decide) userSource (by decide)
  rw [partsOfFile_reader] at first
  exact absurd first (by decide)

end Settings

end SearchBox.Connection
