import SearchBox.Proofs.RegisteredColumns
import SearchBox.Proofs.TextCuts
import SearchBox.SearchTerm

/- How tokens are read as terms. A term is written as a bar if it is an alternative, a key of its column, a colon
   and its condition; a token that is written so is read as that term, and any other token is left out. -/
namespace SearchBox.SearchTerm
open Text

/-- A token that stands for no term: it has no colon, or its key belongs to no column. -/
def Ignored (map : ColumnMap) (token : Text) : Prop :=
  ':' ∉ token ∨ ∃ head condition, token = head ++ ':' :: condition ∧ ':' ∉ head ∧
    map.resolve (stripBar head).1 = none

theorem parse?_of_no_colon {token : Text} (map : ColumnMap) (absent : ':' ∉ token) :
    parse? map token = none := by
  rw [parse?, parse, cutAt?_eq_none.mpr absent]
  rfl

theorem parse?_of_head {head : Text} (map : ColumnMap) (absent : ':' ∉ head) (condition : Text) :
    parse? map (head ++ ':' :: condition) =
      (map.resolve (stripBar head).1).map fun column =>
        ⟨column, condition, (stripBar head).2⟩ := by
  rw [parse?, parse, cutAt?_append absent]
  dsimp only
  cases map.resolve (stripBar head).1 <;> rfl

theorem parse?_of_ignored {map : ColumnMap} {token : Text} (ignored : Ignored map token) :
    parse? map token = none := by
  rcases ignored with absent | ⟨head, condition, rfl, absent, unknown⟩
  · exact parse?_of_no_colon map absent
  · rw [parse?_of_head map absent, unknown]
    rfl

def headOf (key : Text) (isOr : Bool) : Text := if isOr then '|' :: key else key

/-- One bar is taken for the connective. A key that comes behind it may have another one in front. -/
theorem stripBar_iff {head key : Text} {isOr : Bool} :
    stripBar head = (key, isOr) ↔ head = headOf key isOr ∧ (isOr = false → key.head? ≠ some '|') := by
  constructor
  · intro stripped
    unfold stripBar at stripped
    split at stripped
    · cases stripped
      exact ⟨rfl, nofun⟩
    · rename_i unbarred
      cases stripped
      refine ⟨rfl, fun _ starts => ?_⟩
      obtain ⟨rest, barred⟩ := List.head?_eq_some_iff.mp starts
      exact unbarred rest barred
  · intro written
    rcases written with ⟨rfl, bare⟩
    cases isOr with
    | true => rfl
    | false =>
      -- a key with a bar of its own would lose it here
      change stripBar key = (key, false)
      unfold stripBar
      split
      · exact absurd rfl (bare rfl)
      · rfl

theorem colon_headOf {key : Text} {isOr : Bool} : ':' ∈ headOf key isOr ↔ ':' ∈ key := by
  cases isOr <;> simp [headOf]

/-- The token is a bar if `t` is an alternative, the key, a colon, and the condition of `t`. The column of `t`
    is the one that the map has for the key. -/
structure Reads (map : ColumnMap) (token key : Text) (t : SearchTerm) : Prop where
  written : token = headOf key t.isOr ++ ':' :: t.condition
  filled : key ≠ []
  noColon : ':' ∉ key
  bare : t.isOr = false → key.head? ≠ some '|'
  known : Assoc.find? map key = some t.column

section Grammar
variable {map : ColumnMap} {token key : Text} {t : SearchTerm}

theorem Reads.parsed (reads : Reads map token key t) : parse? map token = some t := by
  rw [reads.written, parse?_of_head map (mt colon_headOf.mp reads.noColon),
    stripBar_iff.mpr ⟨rfl, reads.bare⟩, ColumnMap.resolve_iff.mpr ⟨reads.filled, reads.known⟩,
    Option.map_some]

theorem reads_of_parsed (parsed : parse? map token = some t) : ∃ key, Reads map token key t := by
  by_cases colon : ':' ∈ token
  · obtain ⟨head, condition, rfl, absent⟩ := List.eq_append_cons_of_mem colon
    rw [parse?_of_head map absent] at parsed
    obtain ⟨column, resolved, rfl⟩ := Option.map_eq_some_iff.mp parsed
    obtain ⟨filled, known⟩ := ColumnMap.resolve_iff.mp resolved
    obtain ⟨split, bare⟩ := stripBar_iff.mp (Prod.eta (stripBar head)).symm
    refine ⟨(stripBar head).1, congrArg (· ++ ':' :: condition) split, filled, ?_, bare, known⟩
    rwa [split, colon_headOf] at absent
  · rw [parse?_of_no_colon map colon] at parsed
    cases parsed

theorem parse?_eq_some : parse? map token = some t ↔ ∃ key, Reads map token key t :=
  ⟨reads_of_parsed, fun ⟨_, reads⟩ => reads.parsed⟩

theorem parse?_eq_none : parse? map token = none ↔ ∀ key t, ¬ Reads map token key t := by
  rw [Option.eq_none_iff_forall_ne_some]
  exact ⟨fun none key t reads => none t reads.parsed,
    fun none t parsed => (reads_of_parsed parsed).elim fun key reads => none key t reads⟩

theorem Reads.unique {key' : Text} {t' : SearchTerm} (reads : Reads map token key t)
    (reads' : Reads map token key' t') : key = key' ∧ t = t' := by
  obtain ⟨sameHead, _⟩ := cut_unique (mt colon_headOf.mp reads.noColon) (mt colon_headOf.mp reads'.noColon)
    (reads.written.symm.trans reads'.written)
  have stripped := stripBar_iff.mpr ⟨rfl, reads.bare⟩
  rw [sameHead, stripBar_iff.mpr ⟨rfl, reads'.bare⟩] at stripped
  have sameTerm := reads.parsed.symm.trans reads'.parsed
  exact ⟨(congrArg Prod.fst stripped).symm, Option.some.inj sameTerm⟩

inductive ReadAll (map : ColumnMap) : List Text → List SearchTerm → Prop where
  | nil : ReadAll map [] []
  | kept {token key : Text} {t : SearchTerm} {tokens : List Text} {ts : List SearchTerm}
      (reads : Reads map token key t) (rest : ReadAll map tokens ts) : ReadAll map (token :: tokens) (t :: ts)
  | left {token : Text} {tokens : List Text} {ts : List SearchTerm}
      (unread : ∀ key t, ¬ Reads map token key t) (rest : ReadAll map tokens ts) :
      ReadAll map (token :: tokens) ts

theorem parseAll_iff {tokens : List Text} {ts : List SearchTerm} :
    parseAll map tokens = ts ↔ ReadAll map tokens ts := by
  constructor
  · -- each token is kept or left by what the parser says of it alone
    rintro rfl
    induction tokens with
    | nil => exact .nil
    | cons token rest ih =>
      rw [parseAll, List.filterMap_cons]
      cases parsed : parse? map token with
      | none => exact .left (parse?_eq_none.mp parsed) ih
      | some t =>
        obtain ⟨key, reads⟩ := reads_of_parsed parsed
        exact .kept reads ih
  · intro readAll
    induction readAll with
    | nil => rfl
    | kept reads _ ih =>
      rw [parseAll] at ih ⊢
      rw [List.filterMap_cons, reads.parsed, ih]
    | left unread _ ih =>
      rw [parseAll] at ih ⊢
      rw [List.filterMap_cons, parse?_eq_none.mpr unread, ih]

end Grammar

/-- A token is read as a term exactly if it is written for it, which it is in one way at most, and a token
    that is written for no term is left out. Of the bars in front, one is for the connective and the others
    belong to the key; of the colons behind it, the first one ends it and the others belong to the condition. -/
theorem parse_grammar (map : ColumnMap) :
    (∀ token t, parse? map token = some t ↔ ∃ key, Reads map token key t) ∧
      (∀ token, parse? map token = none ↔ ∀ key t, ¬ Reads map token key t) ∧
      (∀ token key key' t t', Reads map token key t → Reads map token key' t' → key = key' ∧ t = t') ∧
      (∀ key condition isOr, ':' ∉ key → (isOr = false → key.head? ≠ some '|') →
        parse? map (headOf key isOr ++ ':' :: condition) =
          (map.resolve key).map fun column => ⟨column, condition, isOr⟩) ∧
      ∀ tokens ts, parseAll map tokens = ts ↔ ReadAll map tokens ts := by
  refine ⟨fun _ _ => parse?_eq_some, fun _ => parse?_eq_none, fun _ _ _ _ _ => Reads.unique, ?_,
    fun _ _ => parseAll_iff⟩
  intro key condition isOr noColon bare
  rw [parse?_of_head map (mt colon_headOf.mp noColon), stripBar_iff.mpr ⟨rfl, bare⟩]

theorem parse_grammar_bars :
    let map : ColumnMap := [("|a".toList, "name".toList)]
    let term : SearchTerm := ⟨"name".toList, "x:y".toList, true⟩
    Reads map "||a:x:y".toList "|a".toList term ∧ parse? map "||a:x:y".toList = some term := by
  intro map term
  have reads : Reads map "||a:x:y".toList "|a".toList term :=
    ⟨by decide, by decide, by decide, by decide, by decide⟩
  exact ⟨reads, ((parse_grammar map).1 _ term).mpr ⟨_, reads⟩⟩

theorem parseAll_append (map : ColumnMap) (as bs : List Text) :
    parseAll map (as ++ bs) = parseAll map as ++ parseAll map bs :=
  List.filterMap_append

end SearchBox.SearchTerm
