import SearchBox.Proofs.FilterCalls
import SearchBox.Proofs.FilterGroups
import SearchBox.Proofs.TextCuts
import SearchBox.Sql

/- The text of a query's filters. It is the flat one: filters in their order, each but the first behind its
   connective, with no parentheses of its own. Read with AND binding tighter than OR, the flat sequence gives
   the formula back that the query was built into. -/
namespace SearchBox

def Connective.spelled : Connective → Text
  | .and => " AND ".toList
  | .or => " OR ".toList

theorem Connective.spelled_and : Connective.and.spelled = " AND ".toList := rfl

theorem Connective.spelled_or : Connective.or.spelled = " OR ".toList := rfl

inductive Lexeme (α : Type) where
  | item (a : α)
  | joint (c : Connective)
  deriving DecidableEq, Repr

namespace Lexeme
variable {α β : Type}

def isJoint (c : Connective) : Lexeme α → Bool
  | .joint d => d = c
  | .item _ => false

def behind (entries : List (Entry α)) : List (Lexeme α) :=
  entries.flatMap fun e => [.joint e.connective, .item e.item]

def ofEntries : List (Entry α) → List (Lexeme α)
  | [] => []
  | first :: rest => .item first.item :: behind rest

def spelled : Lexeme Text → Text
  | .item t => t
  | .joint c => c.spelled

def readItem : List (Lexeme α) → Option (Formula α)
  | [.item a] => some (.one a)
  | _ => none

def readJoined (c : Connective) (wrapping : List (Formula α) → Formula α)
    (readPart : List (Lexeme α) → Option (Formula α)) (s : List (Lexeme α)) : Option (Formula α) :=
  ((s.splitOnP (isJoint c)).mapM readPart).map (Formula.wrap wrapping)

/-- AND binds tighter than OR, so the sequence comes apart at its ORs first. -/
def read (s : List (Lexeme α)) : Option (Formula α) :=
  readJoined .or .any (readJoined .and .all readItem) s

end Lexeme

namespace Formula
variable {α β : Type}

mutual

def map (w : α → β) : Formula α → Formula β
  | .one a => .one (w a)
  | .all parts => .all (mapParts w parts)
  | .any parts => .any (mapParts w parts)

def mapParts (w : α → β) : List (Formula α) → List (Formula β)
  | [] => []
  | part :: rest => map w part :: mapParts w rest

end

end Formula

def Entry.map {α β : Type} (w : α → β) (e : Entry α) : Entry β := ⟨e.connective, w e.item⟩

def Entry.mapM {α β : Type} (write : α → Except Fault β) (e : Entry α) : Except Fault (Entry β) :=
  (write e.item).map (⟨e.connective, ·⟩)

section Reading
variable {α β : Type}
open Lexeme Formula

def Lexeme.ofGroup (g : List α) : List (Lexeme α) := Lexeme.ofEntries (g.map (Entry.mk .and))

theorem ofEntries_concat {entries : List (Entry α)} (some : entries ≠ []) (e : Entry α) :
    Lexeme.ofEntries (entries ++ [e]) =
      Lexeme.ofEntries entries ++ [.joint e.connective, .item e.item] := by
  obtain ⟨first, rest, rfl⟩ := List.exists_cons_of_ne_nil some
  simp [Lexeme.ofEntries, behind]

theorem ofGroup_concat {g : List α} (some : g ≠ []) (a : α) :
    ofGroup (g ++ [a]) = ofGroup g ++ [.joint .and, .item a] := by
  rw [ofGroup, List.map_append, List.map_singleton, ofEntries_concat (by simpa using some)]
  rfl

theorem mem_ofGroup {g : List α} {s : Lexeme α} (member : s ∈ ofGroup g) :
    isJoint .or s = false := by
  cases g with
  | nil => cases member
  | cons a rest =>
    simp only [ofGroup, List.map_cons, Lexeme.ofEntries, behind, List.mem_cons, List.mem_flatMap,
      List.mem_map] at member
    rcases member with rfl | ⟨e, ⟨b, _, rfl⟩, inPair⟩
    · rfl
    · rcases inPair with rfl | rfl | none
      · rfl
      · rfl
      · cases none

theorem splitOnP_groupsFrom (current : List α) (entries : List (Entry α)) (some : current ≠ []) :
    (ofGroup current ++ behind entries).splitOnP (isJoint .or) =
      (groupsFrom current entries).map ofGroup := by
  -- `current` holds no OR, so it is the first part as soon as an OR or the end comes
  induction entries generalizing current with
  | nil =>
    rw [behind, List.flatMap_nil, List.append_nil, List.splitOnP_eq_singleton fun s => mem_ofGroup]
    rfl
  | cons e rest ih =>
    obtain ⟨connective, a⟩ := e
    cases connective with
    | and =>
      have more := ih (current ++ [a]) (by simp)
      rw [ofGroup_concat some, List.append_assoc] at more
      exact more
    | or =>
      have more := ih [a] (by simp)
      rw [behind, List.flatMap_cons, List.cons_append, List.splitOnP_append_cons _ _ rfl,
        List.splitOnP_eq_singleton fun s => mem_ofGroup]
      exact congrArg (ofGroup current :: ·) more

theorem splitOnP_ofEntries {entries : List (Entry α)} (some : entries ≠ []) :
    (Lexeme.ofEntries entries).splitOnP (isJoint .or) = (groups entries).map ofGroup := by
  obtain ⟨first, rest, rfl⟩ := List.exists_cons_of_ne_nil some
  exact splitOnP_groupsFrom [first.item] rest (List.cons_ne_nil _ _)

theorem splitOnP_ofGroup {g : List α} (some : g ≠ []) :
    (ofGroup g).splitOnP (isJoint .and) = g.map fun a => [.item a] := by
  induction g using List.reverseRecOn with
  | nil => exact absurd rfl some
  | append_singleton earlier a ih =>
    by_cases first : earlier = []
    · rw [first]
      rfl
    · rw [ofGroup_concat first, List.splitOnP_append_cons _ _ rfl, ih first, List.map_append]
      rfl

theorem mapM_readItem (g : List α) :
    (g.map fun a => [Lexeme.item a]).mapM readItem = some (g.map Formula.one) := by
  induction g with
  | nil => rfl
  | cons a rest ih =>
    rw [List.map_cons, List.mapM_cons, ih]
    rfl

theorem readGroup_ofGroup {g : List α} (some : g ≠ []) :
    readJoined .and .all readItem (ofGroup g) = .some (wrap .all (g.map .one)) := by
  rw [readJoined, splitOnP_ofGroup some, mapM_readItem]
  rfl

theorem mapM_readGroup {gs : List (List α)} (some : ∀ g ∈ gs, g ≠ []) :
    (gs.map ofGroup).mapM (readJoined .and .all readItem) =
      .some (gs.map fun g => wrap .all (g.map .one)) := by
  induction gs with
  | nil => rfl
  | cons g rest ih =>
    rw [List.map_cons, List.mapM_cons, readGroup_ofGroup (some g List.mem_cons_self),
      ih fun h member => some h (List.mem_cons_of_mem g member)]
    rfl

theorem ne_nil_of_mem_groups {entries : List (Entry α)} {g : List α} (group : g ∈ groups entries) :
    g ≠ [] := by
  rw [groups_eq_runs] at group
  obtain ⟨run, inRuns, rfl⟩ := List.mem_map.mp group
  simpa using List.ne_nil_of_mem_splitBy inRuns

/-- Reading the flat sequence gives the formula back that is built from its entries. -/
theorem read_ofEntries (entries : List (Entry α)) :
    Lexeme.read (Lexeme.ofEntries entries) = Formula.ofEntries entries := by
  by_cases some : entries = []
  · rw [some]
    rfl
  · have filled : ∀ g ∈ groups entries, g ≠ [] := fun g => ne_nil_of_mem_groups
    have cut := mapM_readGroup filled
    rw [Lexeme.read, readJoined, splitOnP_ofEntries some, cut, Formula.ofEntries]
    cases split : groups entries with
    | nil => exact absurd (groups_eq_nil.mp split) some
    | cons g rest => rfl

example : Lexeme.read [.item 1, .joint .or, .item 2, .joint .and, .item 3] =
    some (.any [.one 1, .all [.one 2, .one 3]]) := rfl

theorem groupsFrom_map (w : α → β) (current : List α) (entries : List (Entry α)) :
    groupsFrom (current.map w) (entries.map (Entry.map w)) =
      (groupsFrom current entries).map (List.map w) := by
  induction entries generalizing current with
  | nil => rfl
  | cons e rest ih =>
    obtain ⟨connective, a⟩ := e
    cases connective with
    | and =>
      have more := ih (current ++ [a])
      rw [List.map_append] at more
      exact more
    | or => exact congrArg (current.map w :: ·) (ih [a])

theorem groups_map (w : α → β) (entries : List (Entry α)) :
    groups (entries.map (Entry.map w)) = (groups entries).map (List.map w) := by
  cases entries with
  | nil => rfl
  | cons e rest => exact groupsFrom_map w [e.item] rest

theorem mapParts_eq_map (w : α → β) (parts : List (Formula α)) :
    mapParts w parts = parts.map (map w) := by
  induction parts with
  | nil => rfl
  | cons part rest ih => rw [mapParts, ih, List.map_cons]

theorem map_wrap {w : α → β} {wrapping : List (Formula α) → Formula α}
    {other : List (Formula β) → Formula β}
    (several : ∀ parts, (wrapping parts).map w = other (parts.map (map w)))
    (parts : List (Formula α)) :
    (wrap wrapping parts).map w = wrap other (parts.map (map w)) := by
  rcases parts with _ | ⟨part, _ | ⟨next, rest⟩⟩
  · exact several []
  · rfl
  · exact several (part :: next :: rest)

theorem ofEntries_map (w : α → β) (entries : List (Entry α)) :
    Formula.ofEntries (entries.map (Entry.map w)) = (Formula.ofEntries entries).map (map w) := by
  rw [Formula.ofEntries, Formula.ofEntries, groups_map]
  cases groups entries with
  | nil => rfl
  | cons g rest =>
    have all (parts : List (Formula α)) : (Formula.all parts).map w = .all (parts.map (map w)) := by
      rw [map, mapParts_eq_map]
    have any (parts : List (Formula α)) : (Formula.any parts).map w = .any (parts.map (map w)) := by
      rw [map, mapParts_eq_map]
    dsimp only [List.map_cons, Option.map_some]
    rw [map_wrap any]
    simp only [List.map_cons, List.map_map, map_wrap all, Function.comp_def, map]

end Reading

section Writing
variable {α β : Type}
open Lexeme Formula

def flatText (entries : List (Entry Text)) : Option Text :=
  if entries = [] then none else some ((Lexeme.ofEntries entries).flatMap spelled)

theorem flatText_concat (entries : List (Entry Text)) (e : Entry Text) :
    flatText (entries ++ [e]) = some (match flatText entries with
      | none => e.item
      | some before => before ++ e.connective.spelled ++ e.item) := by
  by_cases first : entries = []
  · rw [first]
    simp [flatText, Lexeme.ofEntries, behind, spelled]
  · simp [flatText, first, ofEntries_concat first, spelled]

theorem join_concat {sep : Text} {ts : List Text} (some : ts ≠ []) (t : Text) :
    Text.join sep (ts ++ [t]) = Text.join sep ts ++ sep ++ t := by
  induction ts with
  | nil => exact absurd rfl some
  | cons first rest ih =>
    cases rest with
    | nil => rfl
    | cons second more =>
      have tail := ih (List.cons_ne_nil second more)
      rw [List.cons_append] at tail
      rw [List.cons_append, List.cons_append, Text.join_cons_cons, tail, Text.join_cons_cons]
      simp only [List.append_assoc]

theorem join_cons {sep : Text} {ts : List Text} (some : ts ≠ []) (t : Text) :
    Text.join sep (t :: ts) = t ++ sep ++ Text.join sep ts := by
  obtain ⟨second, more, rfl⟩ := List.exists_cons_of_ne_nil some
  exact Text.join_cons_cons sep t second more

theorem groupsFrom_ne_nil (current : List α) (entries : List (Entry α)) :
    groupsFrom current entries ≠ [] := by
  induction entries generalizing current with
  | nil => exact List.cons_ne_nil _ _
  | cons e rest ih =>
    rw [groupsFrom]
    cases e.connective with
    | and => exact ih _
    | or => exact List.cons_ne_nil _ _

/-- Texts joined within their groups and the groups joined after that come to the flat text. -/
theorem join_groupsFrom (current : List Text) (entries : List (Entry Text)) (some : current ≠ []) :
    Text.join " OR ".toList ((groupsFrom current entries).map (Text.join " AND ".toList)) =
      Text.join " AND ".toList current ++ (behind entries).flatMap spelled := by
  induction entries generalizing current with
  | nil => simp [groupsFrom, behind, Text.join]
  | cons e rest ih =>
    obtain ⟨connective, t⟩ := e
    have split : (behind (⟨connective, t⟩ :: rest)).flatMap spelled =
        connective.spelled ++ t ++ (behind rest).flatMap spelled := by
      simp [behind, spelled]
    rw [split]
    cases connective with
    | and =>
      have more := ih (current ++ [t]) (by simp)
      rw [join_concat some] at more
      rw [groupsFrom, more, Connective.spelled_and]
      simp only [List.append_assoc]
    | or =>
      have others : (groupsFrom [t] rest).map (Text.join " AND ".toList) ≠ [] := by
        simpa using groupsFrom_ne_nil [t] rest
      rw [groupsFrom, List.map_cons, join_cons others, ih [t] (by simp)]
      simp only [Text.join, Connective.spelled_or, List.append_assoc]

theorem join_groups {entries : List (Entry Text)} (some : entries ≠ []) :
    Text.join " OR ".toList ((groups entries).map (Text.join " AND ".toList)) =
      (Lexeme.ofEntries entries).flatMap spelled := by
  obtain ⟨first, rest, rfl⟩ := List.exists_cons_of_ne_nil some
  exact join_groupsFrom [first.item] rest (List.cons_ne_nil _ _)

variable (write : α → Except Fault Text)

theorem partTexts_ones (withinAll : Bool) (g : List α) :
    partTexts write withinAll (g.map .one) = g.mapM write := by
  induction g with
  | nil => rfl
  | cons a rest ih =>
    rw [List.map_cons, partTexts, ih, List.mapM_cons, Formula.text]
    simp [isAny]

theorem text_group (g : List α) :
    (wrap .all (g.map .one)).text write = (g.mapM write).map (Text.join " AND ".toList) := by
  rcases g with _ | ⟨a, _ | ⟨b, rest⟩⟩
  · rfl
  · change write a = _
    rw [List.mapM_cons]
    cases write a <;> rfl
  · rw [← partTexts_ones write true]
    rfl

theorem text_wrap_any (parts : List (Formula α)) :
    (wrap .any parts).text write =
      (partTexts write false parts).map (Text.join " OR ".toList) := by
  refine apply_wrap (g := fun ps => (partTexts write false ps).map (Text.join " OR ".toList))
    (fun part => ?_) (fun ps => rfl) parts
  rw [partTexts]
  cases part.text write <;> rfl

theorem partTexts_groups (gs : List (List α)) :
    partTexts write false (gs.map fun g => wrap .all (g.map .one)) =
      (gs.mapM (List.mapM write)).map (List.map (Text.join " AND ".toList)) := by
  induction gs with
  | nil => rfl
  | cons g rest ih =>
    rw [List.map_cons, partTexts, ih, List.mapM_cons, text_group]
    cases g.mapM write with
    | error fault => rfl
    | ok ts => cases rest.mapM (List.mapM write) <;> rfl

theorem mapM_groupsFrom (write : α → Except Fault β) (current : List α) (entries : List (Entry α)) :
    (groupsFrom current entries).mapM (List.mapM write) = do
      let first ← current.mapM write
      let others ← entries.mapM (Entry.mapM write)
      return groupsFrom first others := by
  -- `write` is asked for the items in one order on both sides, so the first fault is the same
  induction entries generalizing current with
  | nil => simp [groupsFrom]
  | cons e rest ih =>
    obtain ⟨connective, a⟩ := e
    have head : Entry.mapM write ⟨connective, a⟩ = (write a).map (⟨connective, ·⟩) := rfl
    rw [List.mapM_cons, head]
    cases connective with
    | and =>
      rw [groupsFrom, ih (current ++ [a]), List.mapM_append, List.mapM_cons]
      cases current.mapM write <;> cases write a <;> cases rest.mapM (Entry.mapM write) <;> rfl
    | or =>
      rw [groupsFrom, List.mapM_cons, ih [a], List.mapM_cons]
      cases current.mapM write <;> cases write a <;> cases rest.mapM (Entry.mapM write) <;> rfl

theorem mapM_groups (write : α → Except Fault β) (entries : List (Entry α)) :
    (groups entries).mapM (List.mapM write) = (entries.mapM (Entry.mapM write)).map groups := by
  cases entries with
  | nil => rfl
  | cons e rest =>
    have head : Entry.mapM write e = (write e.item).map (⟨e.connective, ·⟩) := rfl
    rw [groups, mapM_groupsFrom, List.mapM_cons, List.mapM_cons, head]
    cases write e.item <;> cases rest.mapM (Entry.mapM write) <;> rfl

theorem mapM_of_forall {write : α → Except Fault β} {w : α → β} {entries : List (Entry α)}
    (written : ∀ e ∈ entries, write e.item = .ok (w e.item)) :
    entries.mapM (Entry.mapM write) = .ok (entries.map (Entry.map w)) := by
  induction entries with
  | nil => rfl
  | cons e rest ih =>
    have head : Entry.mapM write e = .ok (e.map w) := by
      rw [Entry.mapM, written e List.mem_cons_self]
      rfl
    rw [List.mapM_cons, head, ih fun e' member => written e' (List.mem_cons_of_mem e member)]
    rfl

theorem mapM_eq_nil {write : α → Except Fault β} {entries : List α} {ts : List β}
    (written : entries.mapM write = .ok ts) : ts = [] ↔ entries = [] := by
  cases entries with
  | nil =>
    cases written
    simp
  | cons e rest =>
    rw [List.mapM_cons] at written
    cases first : write e with
    | error fault =>
      rw [first] at written
      cases written
    | ok t =>
      rw [first] at written
      cases others : rest.mapM write with
      | error fault =>
        rw [others] at written
        cases written
      | ok more =>
        rw [others] at written
        cases written
        simp

end Writing

namespace Query
open Formula

theorem whereText_eq (d : SqlDialect) (q : Query) :
    q.whereText d = (q.filters.mapM (Entry.mapM (Sql.clause d q.table.name))).map flatText := by
  have grouped := mapM_groups (Sql.clause d q.table.name) q.filters
  rw [whereText, whereClause, ofEntries]
  cases split : groups q.filters with
  | nil =>
    rw [groups_eq_nil.mp split]
    rfl
  | cons g rest =>
    dsimp only
    rw [text_wrap_any, partTexts_groups, ← split, grouped]
    cases written : q.filters.mapM (Entry.mapM (Sql.clause d q.table.name)) with
    | error fault => rfl
    | ok ts =>
      have some : ts ≠ [] := by
        intro empty
        rw [groups_eq_nil.mpr ((mapM_eq_nil written).mp empty)] at split
        cases split
      have text := join_groups some
      simp only [Except.map, flatText, some, if_false, text]

theorem whereText_append (d : SqlDialect) (q : Query) (e : Entry Clause) :
    (q.append e).whereText d = do
      let before ← q.whereText d
      let added ← Sql.clause d q.table.name e.item
      return some (match before with
        | none => added
        | some t => t ++ e.connective.spelled ++ added) := by
  rw [whereText_eq, whereText_eq]
  change ((q.filters ++ [e]).mapM (Entry.mapM (Sql.clause d q.table.name))).map flatText = _
  have head : Entry.mapM (Sql.clause d q.table.name) e =
    (Sql.clause d q.table.name e.item).map (⟨e.connective, ·⟩) := rfl
  rw [List.mapM_append, List.mapM_cons, head]
  cases q.filters.mapM (Entry.mapM (Sql.clause d q.table.name)) with
  | error fault => rfl
  | ok ts =>
    cases Sql.clause d q.table.name e.item with
    | error fault => rfl
    | ok t => exact congrArg Except.ok (flatText_concat ts ⟨e.connective, t⟩)

theorem whereText_of_forall {d : SqlDialect} {q : Query} {w : Clause → Text} {first : Entry Clause}
    {rest : List (Entry Clause)} (filters : q.filters = first :: rest)
    (written : ∀ e ∈ q.filters, Sql.clause d q.table.name e.item = .ok (w e.item)) :
    q.whereText d =
      .ok (some (w first.item ++ rest.flatMap fun e => e.connective.spelled ++ w e.item)) := by
  rw [whereText_eq, mapM_of_forall written, filters]
  simp [Except.map, flatText, Lexeme.ofEntries, Lexeme.behind, Lexeme.spelled, Entry.map,
    List.flatMap_map, List.flatMap_assoc]

end Query

/-- The text of all filters is the flat one, in which only the first connective is not shown; an accepted
    call puts its filter behind the text that was there; and reading the flat sequence gives back the
    formula, whatever `w` the filters are shown as in it. -/
theorem whereText_flat (d : SqlDialect) (q : Query) :
    (∀ (w : Clause → Text) (first : Entry Clause) (rest : List (Entry Clause)),
      q.filters = first :: rest →
      (∀ e ∈ q.filters, Sql.clause d q.table.name e.item = .ok (w e.item)) →
        q.whereText d =
          .ok (some (w first.item ++ rest.flatMap fun e => e.connective.spelled ++ w e.item))) ∧
    (∀ word c next, q.call word c = .ok next → ∃ e, next = q.append e ∧
      next.whereText d = do
        let before ← q.whereText d
        let added ← Sql.clause d q.table.name e.item
        return some (match before with
          | none => added
          | some t => t ++ e.connective.spelled ++ added)) ∧
    ∀ {β : Type} (w : Clause → β),
      Lexeme.read (Lexeme.ofEntries (q.filters.map (Entry.map w))) =
        q.whereClause.map (Formula.map w) := by
  refine ⟨fun w first rest => Query.whereText_of_forall, ?_, ?_⟩
  · intro word c next called
    obtain ⟨connective, clause, _, _, rfl⟩ := Query.call_ok called
    exact ⟨⟨connective, clause⟩, rfl, Query.whereText_append d q ⟨connective, clause⟩⟩
  · intro β w
    rw [read_ofEntries, ofEntries_map]
    rfl

def visits : Table := ⟨"visits".toList, [⟨"city".toList, .string⟩, ⟨"year".toList, .int⟩]⟩

def cityFilters : List (Entry Clause) :=
  [⟨.or, .compare ⟨"city".toList, .string⟩ .equal (.text "o'hara".toList)⟩,
    ⟨.and, .between ⟨"year".toList, .int⟩ (.text "1".toList) (.text "2".toList)⟩,
    ⟨.or, .member ⟨"year".toList, .int⟩ true [.text "7".toList, .null]⟩]

def visitsText (c : Clause) : Text := (Sql.clause .postgresql visits.name c).toOption.getD []

theorem whereText_flat_cities :
    let q : Query := { table := visits, dialect := [], filters := cityFilters }
    let text := ("visits.city = 'o''hara' AND visits.year BETWEEN '1' AND '2' OR " ++
      "(visits.year NOT IN ('7', NULL))").toList
    q.whereText .postgresql = .ok (some text) ∧
      ∃ next, q.call "AND".toList (.like "city".toList (.text "a%".toList)) = .ok next ∧
        next.whereText .postgresql =
          .ok (some (text ++ " AND visits.city LIKE 'a%%'".toList)) := by
  intro q text
  have flat := whereText_flat .postgresql q
  have written : q.whereText .postgresql = .ok (some text) :=
    (flat.1 visitsText _ _ rfl (by decide)).trans (by decide)
  let added : Entry Clause := ⟨.and, .matching ⟨"city".toList, .string⟩ .like (.text "a%".toList)⟩
  have called : q.call "AND".toList (.like "city".toList (.text "a%".toList)) =
      .ok (q.append added) := by decide
  obtain ⟨e, same, appended⟩ := flat.2.1 _ _ _ called
  have filters : cityFilters ++ [added] = cityFilters ++ [e] := congrArg Query.filters same
  obtain rfl : added = e := List.singleton_inj.mp (List.append_cancel_left filters)
  refine ⟨written, q.append added, called, ?_⟩
  rw [appended, written]
  decide

end SearchBox
