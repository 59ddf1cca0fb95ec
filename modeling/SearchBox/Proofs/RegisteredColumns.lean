import Mathlib.Data.List.Induction
import SearchBox.Column

/- Which column a key stands for. A column is entered under its label and under its name, over whatever was
   entered there before it; so a key belongs to the last column that has it, whichever of the two it is. -/
namespace SearchBox

namespace Column

def Has (c : Column) (key : Text) : Prop := c.label = key ∨ c.name = key

instance (c : Column) (key : Text) : Decidable (c.Has key) := inferInstanceAs (Decidable (_ ∨ _))

/-- `c` has the key, and no column that was registered behind it does. -/
def LastWith (key : Text) (columns : List Column) (c : Column) : Prop :=
  ∃ before after, columns = before ++ c :: after ∧ c.Has key ∧ ∀ d ∈ after, ¬ d.Has key

variable {key : Text} {columns : List Column} {c : Column}

theorem LastWith.mem (last : LastWith key columns c) : c ∈ columns ∧ c.Has key := by
  obtain ⟨before, after, rfl, has, _⟩ := last
  exact ⟨by simp, has⟩

theorem lastWith_iff_find? :
    LastWith key columns c ↔ columns.reverse.find? (fun d => d.Has key) = some c := by
  rw [List.find?_eq_some_iff_append]
  constructor
  · rintro ⟨before, after, rfl, has, none⟩
    exact ⟨by simpa using has, after.reverse, before.reverse, by simp, by simpa using none⟩
  · rintro ⟨has, after, before, split, none⟩
    refine ⟨before.reverse, after.reverse, ?_, by simpa using has, by simpa using none⟩
    rw [← columns.reverse_reverse, split]
    simp

end Column

namespace ColumnMap
variable {key : Text}

theorem find?_add (m : ColumnMap) (c : Column) (key : Text) :
    Assoc.find? (m.add c) key = if c.Has key then some c.name else Assoc.find? m key := by
  rw [ColumnMap.add, Assoc.find?_insert, Assoc.find?_insert]
  by_cases named : c.name = key
  · simp [Column.Has, named]
  · simp [Column.Has, named]

theorem ofColumns_concat (columns : List Column) (c : Column) :
    ofColumns (columns ++ [c]) = (ofColumns columns).add c := by
  simp only [ofColumns, List.foldl_append, List.foldl_cons, List.foldl_nil]

theorem find?_ofColumns_eq (columns : List Column) (key : Text) :
    Assoc.find? (ofColumns columns) key =
      (columns.reverse.find? (fun c => c.Has key)).map (·.name) := by
  induction columns using List.reverseRecOn with
  | nil => rfl
  | append_singleton columns c ih =>
    rw [ofColumns_concat, find?_add, List.reverse_concat, List.find?_cons]
    by_cases own : c.Has key
    · simp [own]
    · simp [own, ih]

theorem find?_ofColumns (before : List Column) {c : Column} {after : List Column}
    (own : c.label = key ∨ c.name = key) (last : ∀ d ∈ after, d.label ≠ key ∧ d.name ≠ key) :
    Assoc.find? (ofColumns (before ++ c :: after)) key = some c.name := by
  have lastWith : Column.LastWith key (before ++ c :: after) c :=
    ⟨before, after, rfl, own, fun d member => not_or.mpr (last d member)⟩
  rw [find?_ofColumns_eq, Column.lastWith_iff_find?.mp lastWith, Option.map_some]

theorem find?_ofColumns_isSome (columns : List Column) (key : Text) :
    (Assoc.find? (ofColumns columns) key).isSome = true ↔
      ∃ c ∈ columns, c.label = key ∨ c.name = key := by
  rw [find?_ofColumns_eq, Option.isSome_map, List.find?_isSome]
  simp only [List.mem_reverse, decide_eq_true_eq]
  rfl

theorem resolve_some (some : key ≠ []) (m : ColumnMap) : m.resolve key = Assoc.find? m key := by
  rw [resolve, if_neg some]

theorem resolve_iff {m : ColumnMap} {column : Text} :
    m.resolve key = some column ↔ key ≠ [] ∧ Assoc.find? m key = some column := by
  by_cases empty : key = []
  · simp [resolve, empty]
  · rw [resolve_some empty, and_iff_right empty]

theorem resolve_eq_some (columns : List Column) (key name : Text) :
    (ofColumns columns).resolve key = some name ↔
      key ≠ [] ∧ ∃ c, Column.LastWith key columns c ∧ c.name = name := by
  rw [resolve_iff, find?_ofColumns_eq, Option.map_eq_some_iff]
  simp only [Column.lastWith_iff_find?]

theorem resolve_eq_none (columns : List Column) (key : Text) :
    (ofColumns columns).resolve key = none ↔ key = [] ∨ ∀ c ∈ columns, ¬ c.Has key := by
  by_cases empty : key = []
  · simp [resolve, empty]
  · rw [resolve_some empty, find?_ofColumns_eq, or_iff_right empty]
    simp

theorem resolve_concat (columns : List Column) (c : Column) (some : key ≠ []) :
    (ofColumns (columns ++ [c])).resolve key =
      if c.Has key then .some c.name else (ofColumns columns).resolve key := by
  rw [resolve_some some, resolve_some some, ofColumns_concat, find?_add]

/-- A key stands for the last registered column that has it as its label or its name, and for none if it is
    empty or no column has it. What a key stands for is the name of a registered column, and is changed
    by one column more only if that column has the key. -/
theorem resolve_ofColumns (columns : List Column) (key : Text) :
    (∀ name, (ofColumns columns).resolve key = some name ↔
        key ≠ [] ∧ ∃ c, Column.LastWith key columns c ∧ c.name = name) ∧
      ((ofColumns columns).resolve key = none ↔ key = [] ∨ ∀ c ∈ columns, ¬ c.Has key) ∧
      (∀ c : Column, (c.Has key → key ≠ [] →
          (ofColumns (columns ++ [c])).resolve key = some c.name) ∧
        (¬ c.Has key → (ofColumns (columns ++ [c])).resolve key = (ofColumns columns).resolve key)) ∧
      ∀ name, (ofColumns columns).resolve key = some name → ∃ c ∈ columns, c.name = name := by
  refine ⟨resolve_eq_some columns key, resolve_eq_none columns key, ?_, ?_⟩
  · intro c
    constructor
    · intro own some
      rw [resolve_concat columns c some, if_pos own]
    · intro other
      by_cases empty : key = []
      · simp [resolve, empty]
      · rw [resolve_concat columns c empty, if_neg other]
  · intro name resolved
    obtain ⟨_, c, last, named⟩ := (resolve_eq_some columns key name).mp resolved
    exact ⟨c, last.mem.1, named⟩

/-- The label of a later column takes over the name of an earlier one, which keeps its own label. -/
example :
    let map := ofColumns [⟨"age".toList, "Age".toList⟩, ⟨"birth".toList, "age".toList⟩]
    map.resolve "age".toList = some "birth".toList ∧ map.resolve "Age".toList = some "age".toList := by
  decide

end ColumnMap
end SearchBox
