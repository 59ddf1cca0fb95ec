import SearchBox.Proofs.FilterCalls
import SearchBox.Proofs.FilterGroups
import SearchBox.Store.Selection

/- Which rows the filters of a query select. Filters are judged in three-valued logic, where a comparison with
   a missing value is neither true nor false; a row is selected when some group has all its filters true. -/
namespace SearchBox

namespace Formula
variable {α : Type} (v : α → Truth)

mutual

/-- The value of a formula where `v` has the values of its items. -/
def truth : Formula α → Truth
  | .one item => v item
  | .all parts => Truth.all (truths parts)
  | .any parts => Truth.any (truths parts)

def truths : List (Formula α) → List Truth
  | [] => []
  | part :: rest => truth part :: truths rest

end

theorem truths_eq_map (parts : List (Formula α)) : truths v parts = parts.map (truth v) := by
  induction parts with
  | nil => rfl
  | cons part rest ih => rw [truths, ih, List.map_cons]

theorem truth_wrap_all (parts : List (Formula α)) :
    (wrap .all parts).truth v = Truth.all (parts.map (truth v)) := by
  refine apply_wrap (g := fun ps => Truth.all (ps.map (truth v))) ?_ ?_ parts
  · exact fun part => Truth.all_singleton (part.truth v)
  · intro ps
    rw [truth, truths_eq_map]

theorem truth_wrap_any (parts : List (Formula α)) :
    (wrap .any parts).truth v = Truth.any (parts.map (truth v)) := by
  refine apply_wrap (g := fun ps => Truth.any (ps.map (truth v))) ?_ ?_ parts
  · exact fun part => Truth.any_singleton (part.truth v)
  · intro ps
    rw [truth, truths_eq_map]

theorem truth_ofEntries {entries : List (Entry α)} {f : Formula α}
    (built : ofEntries entries = some f) :
    f.truth v = Truth.any ((groups entries).map fun g => Truth.all (g.map v)) := by
  unfold ofEntries at built
  split at built
  · cases built
  · obtain rfl := Option.some.inj built
    rw [truth_wrap_any, List.map_map]
    congr 1
    refine List.map_congr_left fun g _ => ?_
    rw [Function.comp_apply, truth_wrap_all, List.map_map]
    rfl

theorem ofEntries_eq_none {entries : List (Entry α)} : ofEntries entries = none ↔ entries = [] := by
  rw [← groups_eq_nil, ofEntries]
  cases groups entries <;> simp

/-- Judging one item after the other comes to the value of the whole, as long as nothing is refused. -/
theorem allHold_ones {judge : α → Except Fault Truth} {g : List α}
    (judged : ∀ a ∈ g, judge a = .ok (v a)) :
    allHold judge (g.map .one) = .ok (g.all fun a => v a = .yes) := by
  induction g with
  | nil => rfl
  | cons a rest ih =>
    have tail := ih fun b member => judged b (List.mem_cons_of_mem a member)
    rw [List.map_cons, allHold, holds, judged a List.mem_cons_self, tail, List.all_cons]
    cases v a <;> rfl

theorem holds_wrap_all (judge : α → Except Fault Truth) (parts : List (Formula α)) :
    (wrap .all parts).holds judge = allHold judge parts := by
  refine apply_wrap (fun part => ?_) (fun ps => by rw [holds]) parts
  rw [allHold, allHold]
  cases part.holds judge with
  | error fault => rfl
  | ok b => cases b <;> rfl

theorem holds_wrap_any (judge : α → Except Fault Truth) (parts : List (Formula α)) :
    (wrap .any parts).holds judge = someHolds judge parts := by
  refine apply_wrap (fun part => ?_) (fun ps => by rw [holds]) parts
  rw [someHolds, someHolds]
  cases part.holds judge with
  | error fault => rfl
  | ok b => cases b <;> rfl

theorem someHolds_groups {judge : α → Except Fault Truth} {gs : List (List α)}
    (judged : ∀ g ∈ gs, ∀ a ∈ g, judge a = .ok (v a)) :
    someHolds judge (gs.map fun g => wrap .all (g.map .one)) =
      .ok (gs.any fun g => g.all fun a => v a = .yes) := by
  induction gs with
  | nil => rfl
  | cons g rest ih =>
    have tail := ih fun h member => judged h (List.mem_cons_of_mem g member)
    rw [List.map_cons, someHolds, holds_wrap_all, allHold_ones v (judged g List.mem_cons_self), tail,
      List.any_cons]
    cases g.all fun a => v a = .yes <;> rfl

theorem mem_of_mem_groups {entries : List (Entry α)} {g : List α} {a : α} (inGroup : a ∈ g)
    (group : g ∈ groups entries) : ∃ e ∈ entries, e.item = a := by
  rw [groups_eq_runs] at group
  obtain ⟨run, inRuns, rfl⟩ := List.mem_map.mp group
  obtain ⟨e, inRun, rfl⟩ := List.mem_map.mp inGroup
  have inAll : e ∈ (runs entries).flatten := List.mem_flatten.mpr ⟨run, inRuns, inRun⟩
  rw [runs, List.flatten_splitBy] at inAll
  exact ⟨e, inAll, rfl⟩

end Formula

open Formula

section Selection
variable {α : Type} (v : α → Truth)

/-- Whether a row is selected on which the filters have the values of `v`: without filters every row is,
    else the formula has to be true. -/
def Selected (entries : List (Entry α)) : Prop :=
  ∀ f, ofEntries entries = some f → f.truth v = .yes

theorem selected_iff_groups (entries : List (Entry α)) :
    Selected v entries ↔ entries = [] ∨ ∃ g ∈ groups entries, ∀ a ∈ g, v a = .yes := by
  have value {f : Formula α} (built : ofEntries entries = some f) :
      f.truth v = .yes ↔ ∃ g ∈ groups entries, ∀ a ∈ g, v a = .yes := by
    rw [truth_ofEntries v built, Truth.any_eq_yes, List.mem_map]
    simp only [Truth.all_eq_yes, List.forall_mem_map]
  cases built : ofEntries entries with
  | none =>
    refine ⟨fun _ => Or.inl (ofEntries_eq_none.mp built), fun _ f asked => ?_⟩
    rw [built] at asked
    cases asked
  | some f =>
    have some : entries ≠ [] := by
      intro empty
      rw [ofEntries_eq_none.mpr empty] at built
      cases built
    simp [Selected, built, some, value built]

theorem selected_append_or {entries : List (Entry α)} (some : entries ≠ []) (a : α) :
    Selected v (entries ++ [⟨.or, a⟩]) ↔ Selected v entries ∨ v a = .yes := by
  rw [selected_iff_groups, selected_iff_groups, groups_append_or]
  simp [some, or_and_right, exists_or]

theorem selected_of_append_and {entries : List (Entry α)} (some : entries ≠ []) (a : α)
    (selected : Selected v (entries ++ [⟨.and, a⟩])) : Selected v entries := by
  rw [selected_iff_groups] at selected ⊢
  obtain ⟨earlier, last, before, after⟩ := groups_append_and some a
  rcases selected with empty | ⟨g, group, allTrue⟩
  · simp at empty
  · rw [after, List.mem_append, List.mem_singleton] at group
    rw [before]
    rcases group with inEarlier | rfl
    · exact Or.inr ⟨g, List.mem_append_left _ inEarlier, allTrue⟩
    · exact Or.inr ⟨last, List.mem_append_right _ (List.mem_singleton_self last),
        fun b member => allTrue b (List.mem_append_left _ member)⟩

theorem selected_single (c : Connective) (a : α) : Selected v [⟨c, a⟩] ↔ v a = .yes := by
  simp [selected_iff_groups, groups, groupsFrom]

theorem truth_ofEntries_runs (entries : List (Entry α)) :
    (ofEntries entries).map (truth v) =
      if entries = [] then none
      else some (Truth.any ((runs entries).map fun run => Truth.all (run.map fun e => v e.item))) := by
  split
  · rename_i empty
    rw [ofEntries_eq_none.mpr empty]
    rfl
  · rename_i some
    obtain ⟨f, built⟩ := Option.ne_none_iff_exists'.mp (mt ofEntries_eq_none.mp some)
    rw [built, Option.map_some, truth_ofEntries v built, groups_eq_runs]
    simp only [List.map_map, Function.comp_def]

theorem selected_iff_runs (entries : List (Entry α)) :
    Selected v entries ↔ entries = [] ∨ ∃ run ∈ runs entries, ∀ e ∈ run, v e.item = .yes := by
  rw [selected_iff_groups, groups_eq_runs]
  simp only [List.mem_map, exists_exists_and_eq_and, forall_exists_index, and_imp,
    forall_apply_eq_imp_iff₂]

end Selection

namespace Query

theorem selects_eq {q : Query} {row : Row} {v : Clause → Truth}
    (judged : ∀ e ∈ q.filters, e.item.truth row = .ok (v e.item)) :
    ∃ selected, q.selects row = .ok selected ∧ (selected = true ↔ Selected v q.filters) := by
  rw [selected_iff_groups, selects, whereClause, ofEntries]
  cases split : groups q.filters with
  | nil => exact ⟨true, rfl, by simp [groups_eq_nil.mp split]⟩
  | cons g rest =>
    have inGroups : ∀ h ∈ g :: rest, ∀ a ∈ h, Clause.truth row a = .ok (v a) := by
      intro h group a inGroup
      rw [← split] at group
      obtain ⟨e, member, rfl⟩ := mem_of_mem_groups inGroup group
      exact judged e member
    have some : q.filters ≠ [] := by
      intro empty
      rw [empty] at split
      cases split
    refine ⟨_, (holds_wrap_any _ _).trans (someHolds_groups v inGroups), ?_⟩
    simp [some]

end Query

/-- Filters mean the OR over their runs of the AND of each run, whatever the values of the single filters
    are. So an AND filter only takes rows away, an OR filter adds the rows it is true on, and a first
    filter selects the rows it is true on whatever its connective. -/
theorem whereClause_meaning :
    (∀ {α : Type} (v : α → Truth) (entries : List (Entry α)),
      (ofEntries entries).map (truth v) =
        (if entries = [] then none
          else some (Truth.any ((runs entries).map fun run => Truth.all (run.map fun e => v e.item)))) ∧
      (Selected v entries ↔ entries = [] ∨ ∃ run ∈ runs entries, ∀ e ∈ run, v e.item = .yes) ∧
      (entries ≠ [] → ∀ f,
        (Selected v (entries ++ [⟨.and, f⟩]) → Selected v entries) ∧
        (Selected v entries → Selected v (entries ++ [⟨.or, f⟩])) ∧
        (Selected v (entries ++ [⟨.or, f⟩]) ↔ Selected v entries ∨ v f = .yes)) ∧
      ∀ c f, Selected v [⟨c, f⟩] ↔ v f = .yes) ∧
    ∀ q : Query,
      q.whereClause = ofEntries q.filters ∧
      (∀ clause word next, q.add clause word = .ok next →
        ∃ c, Connective.ofWord word = .ok c ∧
          next = { q with filters := q.filters ++ [⟨c, clause⟩] }) ∧
      ∀ (row : Row) (v : Clause → Truth),
        (∀ e ∈ q.filters, e.item.truth row = .ok (v e.item)) →
          ∃ selected, q.selects row = .ok selected ∧ (selected = true ↔ Selected v q.filters) := by
  refine ⟨?_, fun q => ⟨rfl, fun clause word next => Query.add_ok, fun row v => Query.selects_eq⟩⟩
  intro α v entries
  refine ⟨truth_ofEntries_runs v entries, selected_iff_runs v entries, ?_, selected_single v⟩
  intro some f
  have added := selected_append_or v some f
  exact ⟨selected_of_append_and v some f, fun selected => added.mpr (Or.inl selected), added⟩

section Unknown

def namedAnn : Clause := .compare ⟨"name".toList, .string⟩ .equal (.text "ann".toList)

def adult : Clause := .compare ⟨"age".toList, .int⟩ .greater (.int 18)

def people : Table := ⟨"people".toList, [⟨"name".toList, .string⟩, ⟨"age".toList, .int⟩]⟩

def annRow : Row := [("name".toList, .text "ann".toList), ("age".toList, .null)]

def annTruth (c : Clause) : Truth := if c = namedAnn then .yes else .unknown

/-- An unknown filter takes the row away and an OR filter brings it back. -/
theorem whereClause_meaning_unknown :
    let entries : List (Entry Truth) := [⟨.or, .yes⟩, ⟨.and, .unknown⟩]
    let q : Query := { table := people, dialect := [], filters := [⟨.and, namedAnn⟩, ⟨.and, adult⟩] }
    ¬ Selected id entries ∧ Selected id (entries ++ [⟨.or, .yes⟩]) ∧
      q.selects annRow = .ok false ∧
      ∃ next, q.add namedAnn "OR".toList = .ok next ∧ next.selects annRow = .ok true := by
  intro entries q
  have laws := whereClause_meaning.1 (id : Truth → Truth) entries
  have missed : ¬ Selected id entries := fun selected => absurd (laws.2.1.mp selected) (by decide)
  have found := (laws.2.2.1 (by decide) .yes).2.2.mpr (Or.inr rfl)
  refine ⟨missed, found, ?_, ?_⟩
  · obtain ⟨selected, selects, iff⟩ := (whereClause_meaning.2 q).2.2 annRow annTruth (by decide)
    have unselected : ¬ Selected annTruth q.filters := fun holds =>
      absurd (((whereClause_meaning.1 annTruth q.filters).2.1).mp holds) (by decide)
    rw [selects, Bool.eq_false_iff.mpr (mt iff.mp unselected)]
  · let next : Query := { q with filters := q.filters ++ [⟨.or, namedAnn⟩] }
    obtain ⟨selected, selects, iff⟩ := (whereClause_meaning.2 next).2.2 annRow annTruth (by decide)
    refine ⟨next, by decide, ?_⟩
    rw [selects, iff.mpr ((whereClause_meaning.1 annTruth next.filters).2.1.mpr (by decide))]

end Unknown

end SearchBox
