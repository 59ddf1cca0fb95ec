import Mathlib.Tactic.ByContra
import SearchBox.Text.Blank

/- Cutting a text at a character: at the first one, at the last one, at every one, and joining the pieces
   again. -/
namespace SearchBox.Text

theorem run_append {belongs : Char → Bool} {run : Text} (inside : ∀ c ∈ run, belongs c = true) (stop : Char)
    (ends : belongs stop = false) (rest : Text) :
    (run ++ stop :: rest).takeWhile belongs = run ∧ (run ++ stop :: rest).dropWhile belongs = stop :: rest := by
  rw [List.takeWhile_append_of_pos inside, List.dropWhile_append_of_pos inside, List.takeWhile_cons,
    List.dropWhile_cons, ends]
  exact ⟨List.append_nil run, rfl⟩

theorem run_of_absent {c : Char} {before : Text} (absent : c ∉ before) (after : Text) :
    (before ++ c :: after).takeWhile (· ≠ c) = before ∧ (before ++ c :: after).dropWhile (· ≠ c) = c :: after := by
  refine run_append ?_ c (by simp) after
  intro d member
  have other : d ≠ c := fun same => absent (same ▸ member)
  simpa using other

theorem cutAt?_append {sep : Char} {before : Text} (absent : sep ∉ before) (after : Text) :
    cutAt? sep (before ++ sep :: after) = some (before, after) := by
  induction before with
  | nil => simp [cutAt?]
  | cons c rest ih =>
    have other : c ≠ sep := fun same => absent (by simp [same])
    have tail := ih fun member => absent (List.mem_cons_of_mem c member)
    simp [cutAt?, other, tail]

theorem cutAt?_eq_none {sep : Char} {t : Text} : cutAt? sep t = none ↔ sep ∉ t := by
  induction t with
  | nil => simp [cutAt?]
  | cons c rest ih =>
    by_cases same : c = sep
    · simp [cutAt?, same]
    · simp [cutAt?, same, ih, Ne.symm same]

theorem cutAt?_eq_some {sep : Char} {t before after : Text} :
    cutAt? sep t = some (before, after) ↔ t = before ++ sep :: after ∧ sep ∉ before := by
  constructor
  · intro found
    have member : sep ∈ t := by
      by_contra absent
      rw [cutAt?_eq_none.mpr absent] at found
      exact absurd found (by simp)
    obtain ⟨first, last, rfl, absent⟩ := List.eq_append_cons_of_mem member
    rw [cutAt?_append absent last, Option.some.injEq, Prod.mk.injEq] at found
    obtain ⟨rfl, rfl⟩ := found
    exact ⟨rfl, absent⟩
  · intro split
    rcases split with ⟨rfl, absent⟩
    exact cutAt?_append absent after

theorem cut_unique {sep : Char} {before after before' after' : Text} (absent : sep ∉ before)
    (absent' : sep ∉ before') (same : before ++ sep :: after = before' ++ sep :: after') :
    before = before' ∧ after = after' := by
  have cut := cutAt?_append absent after
  rw [same, cutAt?_append absent' after'] at cut
  simp_all

theorem cutAtLast?_eq_some {sep : Char} {t before after : Text} :
    cutAtLast? sep t = some (before, after) ↔ t = before ++ sep :: after ∧ sep ∉ after := by
  have reversed : t.reverse = after.reverse ++ sep :: before.reverse ↔ t = before ++ sep :: after := by
    rw [← List.reverse_inj]
    simp
  rw [cutAtLast?, Option.map_eq_some_iff, ← reversed]
  constructor
  · rintro ⟨⟨last, first⟩, found, cut⟩
    obtain ⟨rfl, rfl⟩ := Prod.mk.inj cut
    obtain ⟨split, absent⟩ := cutAt?_eq_some.mp found
    simp only [List.reverse_reverse, List.mem_reverse]
    exact ⟨split, absent⟩
  · rintro ⟨split, absent⟩
    refine ⟨(after.reverse, before.reverse), cutAt?_eq_some.mpr ⟨split, ?_⟩, ?_⟩
    · rwa [List.mem_reverse]
    · simp

theorem cutAtLast?_of_mem {sep : Char} {t : Text} (member : sep ∈ t) :
    ∃ before after, cutAtLast? sep t = some (before, after) ∧ t = before ++ sep :: after ∧ sep ∉ after := by
  obtain ⟨after, before, split, absent⟩ := List.eq_append_cons_of_mem (List.mem_reverse.mpr member)
  refine ⟨before.reverse, after.reverse, ?_⟩
  rw [cutAtLast?_eq_some, and_self]
  refine ⟨?_, by simpa using absent⟩
  rw [← List.reverse_inj, split]
  simp

theorem splitAt_of_absent {sep : Char} {t : Text} (absent : sep ∉ t) : splitAt sep t = [t] := by
  induction t with
  | nil => rfl
  | cons c rest ih =>
    have other : c ≠ sep := fun same => absent (by simp [same])
    have tail := ih fun member => absent (List.mem_cons_of_mem c member)
    simp [splitAt, other, tail]

theorem splitAt_append {sep : Char} {piece : Text} (absent : sep ∉ piece) (rest : Text) :
    splitAt sep (piece ++ sep :: rest) = piece :: splitAt sep rest := by
  induction piece with
  | nil => simp [splitAt]
  | cons c tail ih =>
    have other : c ≠ sep := fun same => absent (by simp [same])
    have more := ih fun member => absent (List.mem_cons_of_mem c member)
    simp [splitAt, other, more]

theorem splitAt_ne_nil (sep : Char) (t : Text) : splitAt sep t ≠ [] := by
  cases t with
  | nil => exact List.cons_ne_nil _ _
  | cons c rest =>
    rw [splitAt]
    split
    · exact List.cons_ne_nil _ _
    · split <;> exact List.cons_ne_nil _ _

theorem splitAt_cons_of_ne {sep c : Char} (other : c ≠ sep) (t : Text) :
    ∃ first rest, splitAt sep t = first :: rest ∧ splitAt sep (c :: t) = (c :: first) :: rest := by
  obtain ⟨first, rest, split⟩ := List.exists_cons_of_ne_nil (splitAt_ne_nil sep t)
  exact ⟨first, rest, split, by rw [splitAt, if_neg other, split]⟩

/-- A cut between two texts does not matter to the pieces of either. -/
theorem splitAt_append_cons (sep : Char) (t rest : Text) :
    splitAt sep (t ++ sep :: rest) = splitAt sep t ++ splitAt sep rest := by
  induction t with
  | nil => simp [splitAt]
  | cons c t ih =>
    by_cases same : c = sep
    · rw [List.cons_append, splitAt, if_pos same, ih, splitAt, if_pos same, List.cons_append]
    · obtain ⟨first, more, split, cut⟩ := splitAt_cons_of_ne same t
      rw [List.cons_append, splitAt, if_neg same, ih, cut, split]
      rfl

theorem mem_splitAt {sep : Char} {t piece : Text} (member : piece ∈ splitAt sep t) : sep ∉ piece ∧ ∀ c ∈ piece, c ∈ t := by
  induction t generalizing piece with
  | nil => simp [splitAt] at member; simp [member]
  | cons d t ih =>
    by_cases same : d = sep
    · rw [splitAt, if_pos same, List.mem_cons] at member
      rcases member with rfl | inRest
      · simp
      · exact ⟨(ih inRest).1, fun c inPiece => List.mem_cons_of_mem d ((ih inRest).2 c inPiece)⟩
    · obtain ⟨first, rest, split, cut⟩ := splitAt_cons_of_ne same t
      rw [split] at ih
      rw [cut, List.mem_cons] at member
      rcases member with rfl | inRest
      · have inFirst := ih List.mem_cons_self
        refine ⟨?_, ?_⟩
        · simp [inFirst.1, Ne.symm same]
        · intro c inPiece
          rcases List.mem_cons.mp inPiece with rfl | inFirst'
          · exact List.mem_cons_self
          · exact List.mem_cons_of_mem d (inFirst.2 c inFirst')
      · have inMore := ih (List.mem_cons_of_mem first inRest)
        exact ⟨inMore.1, fun c inPiece => List.mem_cons_of_mem d (inMore.2 c inPiece)⟩

theorem splitAt_eq_empty {sep : Char} {t : Text} (split : splitAt sep t = [[]]) : t = [] := by
  cases t with
  | nil => rfl
  | cons c t =>
    by_cases same : c = sep
    · rw [splitAt, if_pos same, List.cons.injEq] at split
      exact absurd split.2 (splitAt_ne_nil sep t)
    · obtain ⟨first, rest, _, cut⟩ := splitAt_cons_of_ne same t
      rw [cut] at split
      simp at split

theorem join_cons_cons (sep first second : Text) (rest : List Text) :
    join sep (first :: second :: rest) = first ++ sep ++ join sep (second :: rest) := rfl

theorem splitAt_join {sep : Char} {ts : List Text} (some : ts ≠ [])
    (absent : ∀ t ∈ ts, sep ∉ t) : splitAt sep (join [sep] ts) = ts := by
  induction ts with
  | nil => exact absurd rfl some
  | cons first rest ih =>
    have firstAbsent := absent first List.mem_cons_self
    cases rest with
    | nil => exact splitAt_of_absent firstAbsent
    | cons second more =>
      have tail := ih (List.cons_ne_nil second more)
        fun t member => absent t (List.mem_cons_of_mem first member)
      rw [join_cons_cons, List.append_assoc, List.singleton_append, splitAt_append firstAbsent, tail]

theorem join_splitAt (sep : Char) (t : Text) : join [sep] (splitAt sep t) = t := by
  induction t with
  | nil => rfl
  | cons c rest ih =>
    by_cases same : c = sep
    · obtain ⟨first, more, split⟩ := List.exists_cons_of_ne_nil (splitAt_ne_nil sep rest)
      rw [splitAt, if_pos same, split, join_cons_cons, ← split, ih, same]
      rfl
    · obtain ⟨first, more, split, cut⟩ := splitAt_cons_of_ne same rest
      rw [split] at ih
      rw [cut, ← ih]
      cases more <;> rfl

theorem mem_join {sep : Text} {ts : List Text} {c : Char} (member : c ∈ join sep ts) :
    c ∈ sep ∨ ∃ t ∈ ts, c ∈ t := by
  induction ts with
  | nil => exact absurd member List.not_mem_nil
  | cons first rest ih =>
    cases rest with
    | nil => exact Or.inr ⟨first, List.mem_cons_self, member⟩
    | cons second more =>
      rw [join_cons_cons, List.mem_append, List.mem_append] at member
      rcases member with (inFirst | inSep) | inTail
      · exact Or.inr ⟨first, List.mem_cons_self, inFirst⟩
      · exact Or.inl inSep
      · rcases ih inTail with inSep | ⟨t, ht, hc⟩
        · exact Or.inl inSep
        · exact Or.inr ⟨t, List.mem_cons_of_mem first ht, hc⟩

end SearchBox.Text
