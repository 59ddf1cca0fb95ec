import SearchBox.GridMethod
import SearchBox.Proofs.CheckedWork
import SearchBox.Proofs.SearchKeys

/- What holds of a grid however it was set up. Names, labels and the key are trimmed where they come in, and
   a call is refused before it has changed anything. -/
namespace SearchBox
open Text

namespace Column

def Made (c : Column) : Prop := ∃ name label, make name label = .ok c

theorem Made.trimmed {c : Column} (made : c.Made) : c.name.Trimmed ∧ c.label.Trimmed := by
  obtain ⟨name, label, made⟩ := made
  exact make_trimmed made

end Column

namespace SearchKey

def Made (k : SearchKey) : Prop := ∃ given, make given = .ok k

theorem Made.trimmed {k : SearchKey} (made : k.Made) : k.text.Trimmed := by
  obtain ⟨given, made⟩ := made
  rw [make] at made
  cases text : given.nonBlank? with
  | none =>
    rw [text] at made
    cases made
  | some t =>
    rw [text] at made
    cases made
    exact Datum.nonBlank?_trimmed text

end SearchKey

namespace Search

/-- Columns to look into, if that is what the search does, are some names and none of them empty. -/
def Listed (s : Search) : Prop := ∀ names, s = .columns names → names ≠ [] ∧ ∀ name ∈ names, name ≠ []

/-- A search that was made, as all of them are, and not put together by hand. -/
def Made (s : Search) : Prop := ∀ names, s = .columns names → ∃ given, ofColumns given = .ok s

theorem listedColumn_some {d : Definition} {name : Text} (listed : listedColumn d = .ok name) :
    name ≠ [] := by
  unfold listedColumn at listed
  split at listed
  · cases listed
    exact List.cons_ne_nil _ _
  · cases listed

theorem ofList_listed {items : List Definition} {s : Search} (made : ofList items = .ok s) :
    s.Listed := by
  rw [ofList] at made
  split at made
  · cases made
  · rename_i some
    obtain ⟨names, listed, rfl⟩ := map_ok made
    obtain ⟨size, sources⟩ := mapM_ok listed
    rintro _ ⟨⟩
    refine ⟨?_, ?_⟩
    · rintro rfl
      exact some (List.isEmpty_iff.mpr (List.eq_nil_of_length_eq_zero size.symm))
    · intro name member
      obtain ⟨d, _, source⟩ := sources name member
      exact listedColumn_some source

theorem Made.listed {s : Search} (made : s.Made) : s.Listed := by
  intro names same
  obtain ⟨given, made⟩ := made names same
  rw [ofColumns] at made
  obtain ⟨ds, _, made⟩ := bind_ok made
  exact ofList_listed made names same

theorem ofArguments_listed {args : List Definition} {s : Search}
    (given : ∀ t, .spec t ∈ args → t.Made) (made : ofArguments args = .ok s) : s.Listed := by
  unfold ofArguments at made
  split at made
  -- a search that is given alone is not looked into again
  case h_3 =>
    cases made
    exact (given s List.mem_cons_self).listed
  case h_1 | h_2 | h_8 =>
    cases made
    intro names same
    cases same
  case h_9 =>
    split at made
    · exact ofList_listed made
    · cases made
  all_goals exact ofList_listed made

end Search

namespace GridMethod

/-- The searches that are handed to a call ready made. -/
def Ready : GridMethod → Prop
  | .quickSearch args _ => ∀ s, .spec s ∈ args → s.Made
  | .column _ | .searchKey _ => True

def change (g : Grid) : GridMethod → Except Fault Grid
  | .quickSearch args position => (g.setSearch args position).value
  | .column args => (g.addColumn (args.map Definition.plainValue)).map (·.1)
  | .searchKey given => g.setKey given.plainValue

end GridMethod

namespace Grid

/-- A grid as the program makes it, from columns, a key and searches that were made themselves. -/
def Made (g : Grid) : Prop :=
  ∃ name table entries key, make name table entries key = .ok g ∧ key.Made ∧
    ∀ c, .column c ∈ entries → c.Made

structure Settled (g : Grid) : Prop where
  columns : ∀ c ∈ g.columns, c.name.Trimmed ∧ c.label.Trimmed
  key : g.key.text.Trimmed
  search : ∀ s, g.search = some s → s.Listed

variable {g : Grid}

theorem columnOfArguments_made {args : List Datum} {c : Column} (made : columnOfArguments args = .ok c) :
    c.Made := by
  unfold columnOfArguments at made
  split at made
  · cases made
  · exact ⟨_, _, made⟩
  · exact ⟨_, _, made⟩
  · cases made

theorem Made.settled (made : g.Made) : g.Settled := by
  obtain ⟨name, table, entries, key, made, keyMade, columnsMade⟩ := made
  rw [make] at made
  split at made
  · obtain ⟨columns, listed, made⟩ := bind_ok made
    cases made
    refine ⟨?_, keyMade.trimmed, nofun⟩
    intro c member
    obtain ⟨entry, inEntries, source⟩ := (mapM_ok listed).2 c member
    refine Column.Made.trimmed ?_
    cases entry with
    | column d =>
      cases source
      exact columnsMade c inEntries
    | arguments args => exact columnOfArguments_made source
    | single d =>
      have made : columnOfArguments [d] = .ok c := source
      exact columnOfArguments_made made
  · cases made

theorem step_eq (g : Grid) (m : GridMethod) :
    g.step m =
      match m.change g with
      | .ok next => (next, none)
      | .error fault => (g, some fault) := by
  cases m with
  | quickSearch args position =>
    rw [step, GridWork.perform, GridWork.quickSearch, GridMethod.change, setSearch]
    obtain ⟨args, position⟩ := splitPosition args position
    dsimp only
    cases Search.ofArguments args <;> rfl
  | column args =>
    rw [step, GridWork.perform, GridWork.column, GridMethod.change, addColumn]
    cases columnOfArguments (args.map Definition.plainValue) <;> rfl
  | searchKey given =>
    rw [step, GridWork.perform, GridWork.searchKey, GridMethod.change, setKey]
    cases SearchKey.make given.plainValue <;> rfl

/-- Every call judges what it is given before it changes the grid. -/
theorem step_refused {m : GridMethod} {fault : Fault} (refused : (g.step m).2 = some fault) :
    (g.step m).1 = g := by
  rw [step_eq] at refused ⊢
  cases changed : m.change g with
  | ok next =>
    rw [changed] at refused
    cases refused
  | error other => rfl

theorem mem_splitPosition {args : List Definition} {position d : Definition}
    (member : d ∈ (splitPosition args position).1) : d ∈ args := by
  unfold splitPosition at member
  split at member
  · split at member
    · rw [List.mem_singleton.mp member]
      exact List.mem_cons_self
    · exact member
  · exact member

namespace Settled
variable (settled : g.Settled)
include settled

theorem setSearch {args : List Definition} {position : Definition} {next : Grid}
    (given : ∀ s, .spec s ∈ args → s.Made) (set : (g.setSearch args position).value = .ok next) :
    next.Settled := by
  rw [Grid.setSearch] at set
  dsimp only at set
  cases made : Search.ofArguments (splitPosition args position).1 with
  | error fault =>
    rw [made] at set
    cases set
  | ok s =>
    rw [made] at set
    cases set
    refine ⟨settled.columns, settled.key, ?_⟩
    rintro _ ⟨⟩
    exact Search.ofArguments_listed (fun t member => given t (mem_splitPosition member)) made

theorem addColumn {args : List Datum} {next : Grid × Column} (added : g.addColumn args = .ok next) :
    next.1.Settled := by
  rw [Grid.addColumn] at added
  obtain ⟨c, made, added⟩ := bind_ok added
  cases added
  refine ⟨?_, settled.key, settled.search⟩
  intro d member
  rcases List.mem_append.mp member with old | new
  · exact settled.columns d old
  · rw [List.mem_singleton.mp new]
    exact (columnOfArguments_made made).trimmed

theorem setKey {given : Datum} {next : Grid} (set : g.setKey given = .ok next) : next.Settled := by
  rw [Grid.setKey] at set
  obtain ⟨key, made, set⟩ := bind_ok set
  cases set
  exact ⟨settled.columns, SearchKey.Made.trimmed ⟨given, made⟩, settled.search⟩

theorem change {m : GridMethod} {next : Grid} (ready : m.Ready) (changed : m.change g = .ok next) :
    next.Settled := by
  cases m with
  | quickSearch args position => exact settled.setSearch ready changed
  | column args =>
    obtain ⟨_, added, rfl⟩ := map_ok changed
    exact settled.addColumn added
  | searchKey given => exact settled.setKey changed

theorem step {m : GridMethod} (ready : m.Ready) : (g.step m).1.Settled := by
  rw [step_eq]
  cases changed : m.change g with
  | ok next => exact settled.change ready changed
  | error fault => exact settled

theorem run {calls : List GridMethod} (ready : ∀ m ∈ calls, m.Ready) : (g.run calls).Settled := by
  induction calls generalizing g with
  | nil => exact settled
  | cons m rest ih =>
    have first := settled.step (ready m List.mem_cons_self)
    exact ih first fun n member => ready n (List.mem_cons_of_mem m member)

end Settled

theorem step_callback (g : Grid) {first : Definition} (callable : first.callback?.isSome = true)
    (second position : Definition) :
    ∃ c, (first = .callback c ∨ first = .spec (.custom c)) ∧
      g.step (.quickSearch [first, second] position) =
        ({ g with search := some (.custom c), position := if position.isNull then second else position },
          none) := by
  have alone : splitPosition [first, second] position =
      ([first], if position.isNull then second else position) := by
    rw [splitPosition, if_pos callable]
  rw [step_eq, GridMethod.change, setSearch, alone]
  unfold Definition.callback? at callable
  split at callable
  · rename_i c
    exact ⟨c, Or.inl rfl, rfl⟩
  · rename_i c
    exact ⟨c, Or.inr rfl, rfl⟩
  · cases callable

/-- A grid that was made, after calls in a row with any arguments. Its names, labels and key are trimmed and
    not empty, its search has columns to look into if it looks into columns, and its column map has the
    labels and names of its columns and no other key, so that its description is complete. A refused call
    leaves it as it is. What follows a callback is taken for the position, unless that is given. -/
theorem run_settled (made : g.Made) {calls : List GridMethod} (ready : ∀ m ∈ calls, m.Ready) :
    let reached := g.run calls
    reached.Settled ∧
      (∀ key, (Assoc.find? reached.columnMap key).isSome = true ↔
        ∃ c ∈ reached.columns, c.label = key ∨ c.name = key) ∧
      (∃ d, reached.describe = d ∧ d.key ≠ [] ∧ ∀ c ∈ d.columns, c.name ≠ [] ∧ c.label ≠ []) ∧
      (∀ m fault, (reached.step m).2 = some fault → (reached.step m).1 = reached) ∧
      ∀ first second position, first.callback?.isSome = true →
        ∃ c, (first = .callback c ∨ first = .spec (.custom c)) ∧
          reached.step (.quickSearch [first, second] position) =
            ({ reached with
                search := some (.custom c), position := if position.isNull then second else position },
              none) := by
  intro reached
  have settled := made.settled.run ready
  refine ⟨settled, ColumnMap.find?_ofColumns_isSome reached.columns, ?_, fun m fault => step_refused, ?_⟩
  · refine ⟨reached.describe, rfl, settled.key.1, ?_⟩
    intro c member
    obtain ⟨name, label⟩ := settled.columns c member
    exact ⟨name.1, label.1⟩
  · intro first second position callable
    exact reached.step_callback callable second position

section People

def people : Table :=
  ⟨"people".toList, [⟨"id".toList, .int⟩, ⟨"name".toList, .string⟩, ⟨"age".toList, .int⟩]⟩

def echo : Callback where
  label := "echo".toList
  shown := "<callback echo>".toList
  run raw q := ⟨q, .ok (.text raw)⟩

def peopleGrid : Grid where
  name := .text "people".toList
  table := people
  columns := [⟨"name".toList, "Name".toList⟩, ⟨"age".toList, "age".toList⟩]
  search := none
  position := .plain .null
  key := .standard

def peopleCalls : List GridMethod :=
  [.quickSearch [.spec (.columns ["name".toList])] (.plain .null), .column [.plain (.int 3)],
    .searchKey (.plain (.text "  ".toList)),
    .quickSearch [.callback echo, .plain (.text "right".toList)] (.plain .null)]

theorem run_settled_people :
    peopleGrid.Made ∧ (∀ m ∈ peopleCalls, m.Ready) ∧ (peopleGrid.run peopleCalls).Settled := by
  have made : peopleGrid.Made := by
    refine ⟨.text "people".toList, people, [.column ⟨"name".toList, "Name".toList⟩,
      .arguments [.text " age".toList, .text [' ']]], .standard, rfl,
      ⟨.text "__search__".toList, rfl⟩, ?_⟩
    intro c member
    have same : c = ⟨"name".toList, "Name".toList⟩ := by simpa using member
    rw [same]
    exact ⟨.text "name".toList, .text "Name".toList, rfl⟩
  have ready : ∀ m ∈ peopleCalls, m.Ready := by
    intro m member
    simp only [peopleCalls, List.mem_cons, List.not_mem_nil, or_false] at member
    rcases member with rfl | rfl | rfl | rfl
    · intro s given names same
      rw [same]
      have listed : s = .columns ["name".toList] := by simpa using given
      rw [← same, listed]
      exact ⟨.list [.plain (.text "name".toList)], rfl⟩
    · trivial
    · trivial
    · intro s given
      simp at given
  exact ⟨made, ready, (run_settled made ready).1⟩

end People

end Grid
end SearchBox
