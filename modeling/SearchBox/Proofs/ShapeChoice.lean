import Mathlib.Data.List.TakeWhile
import SearchBox.Condition
import SearchBox.Proofs.TextCuts

/- Which shape a condition is taken for, said by the characters that occur in it and their order. A shape
   is found when it can be read at some position, so each reader is reduced to what it asks of the text at
   its position. -/
namespace SearchBox.Shape
open Text

/-- A `left` with a `right` behind it, and a text between them that `inside` holds for. -/
def Encloses (left right : Char) (inside : Text → Prop) (s : Text) : Prop :=
  ∃ before inner after, s = before ++ left :: inner ++ right :: after ∧ inside inner

def HasSet : Text → Prop := Encloses '(' ')' fun inner => inner ≠ [] ∧ '\n' ∉ inner

def HasRange : Text → Prop := Encloses '[' ']' fun inner => ',' ∈ inner ∧ '\n' ∉ inner

def HasDatePart (s : Text) : Prop := ∃ part : DatePart, part.name ++ [','] <:+: s

def HasPattern : Text → Prop := Encloses '%' '%' fun inner => inner ≠ [] ∧ '%' ∉ inner

def HasRegexp : Text → Prop := Encloses '/' '/' fun inner => '\n' ∉ inner

def Opens (left right : Char) (inside : Text → Prop) (t : Text) : Prop :=
  ∃ inner after, t = left :: (inner ++ right :: after) ∧ inside inner

def OpensSet : Text → Prop := Opens '(' ')' fun inner => inner ≠ [] ∧ '\n' ∉ inner

def OpensRange : Text → Prop := Opens '[' ']' fun inner => ',' ∈ inner ∧ '\n' ∉ inner

def OpensDatePart (t : Text) : Prop := ∃ part : DatePart, part.name ++ [','] <+: t

def OpensPattern : Text → Prop := Opens '%' '%' fun inner => inner ≠ [] ∧ '%' ∉ inner

def OpensRegexp : Text → Prop := Opens '/' '/' fun inner => '\n' ∉ inner

section Surroundings
variable {left right c : Char} {inside : Text → Prop} {s : Text}

theorem encloses_iff_opens :
    Encloses left right inside s ↔ ∃ tail, tail <:+ s ∧ Opens left right inside tail := by
  constructor
  · intro enclosed
    rcases enclosed with ⟨before, inner, after, rfl, holds⟩
    exact ⟨left :: (inner ++ right :: after), ⟨before, by simp⟩, inner, after, rfl, holds⟩
  · intro opens
    rcases opens with ⟨_, ⟨before, rfl⟩, inner, after, rfl, holds⟩
    exact ⟨before, inner, after, by simp, holds⟩

theorem hasDatePart_iff_opens : HasDatePart s ↔ ∃ tail, tail <:+ s ∧ OpensDatePart tail := by
  constructor
  · intro occurs
    rcases occurs with ⟨part, before, after, rfl⟩
    exact ⟨part.name ++ [','] ++ after, ⟨before, by simp⟩, part, after, rfl⟩
  · intro opens
    rcases opens with ⟨_, ⟨before, rfl⟩, part, after, rfl⟩
    exact ⟨part, before, after, by simp⟩

theorem not_encloses_of_absent (absent : left ∉ s) : ¬ Encloses left right inside s := by
  intro enclosed
  rcases enclosed with ⟨before, inner, after, rfl, _⟩
  exact absent (by simp)

theorem encloses_cons (other : c ≠ left) :
    Encloses left right inside (c :: s) ↔ Encloses left right inside s := by
  constructor
  · intro enclosed
    rcases enclosed with ⟨before, inner, after, split, holds⟩
    cases before with
    | nil => exact absurd (List.cons.inj split).1 other
    | cons d before => exact ⟨before, inner, after, (List.cons.inj split).2, holds⟩
  · intro enclosed
    rcases enclosed with ⟨before, inner, after, rfl, holds⟩
    exact ⟨c :: before, inner, after, rfl, holds⟩

theorem encloses_append {lead : Text} (absent : left ∉ lead) :
    Encloses left right inside (lead ++ s) ↔ Encloses left right inside s := by
  induction lead with
  | nil => rfl
  | cons d rest ih =>
    have other : d ≠ left := fun same => absent (by simp [same])
    rw [List.cons_append, encloses_cons other,
      ih fun member => absent (List.mem_cons_of_mem d member)]

theorem encloses_concat (other : c ≠ right) :
    Encloses left right inside (s ++ [c]) ↔ Encloses left right inside s := by
  constructor
  · intro enclosed
    rcases enclosed with ⟨before, inner, after, split, holds⟩
    rcases List.eq_nil_or_concat after with rfl | ⟨rest, last, rfl⟩
    · have := (List.append_inj' split rfl).2
      exact absurd (List.cons.inj this).1 other
    · rw [List.concat_eq_append, ← List.cons_append, ← List.append_assoc] at split
      exact ⟨before, inner, rest, (List.append_inj' split rfl).1, holds⟩
  · intro enclosed
    rcases enclosed with ⟨before, inner, after, rfl, holds⟩
    exact ⟨before, inner, after ++ [c], by simp, holds⟩

def partInitials : List Char := ['d', 't', 'm', 'y']

theorem hasDatePart_cons (other : c ∉ partInitials) : HasDatePart (c :: s) ↔ HasDatePart s := by
  constructor
  · intro occurs
    rcases occurs with ⟨part, found⟩
    rcases List.infix_cons_iff.mp found with here | later
    · have first : c ∈ partInitials := by
        obtain ⟨rest, split⟩ := here
        cases part <;> rw [← (List.cons.inj split).1] <;> decide
      exact absurd first other
    · exact ⟨part, later⟩
  · intro occurs
    rcases occurs with ⟨part, found⟩
    exact ⟨part, List.infix_cons_iff.mpr (Or.inr found)⟩

theorem hasDatePart_append {lead : Text} (other : ∀ d ∈ lead, d ∉ partInitials) :
    HasDatePart (lead ++ s) ↔ HasDatePart s := by
  induction lead with
  | nil => rfl
  | cons d rest ih =>
    rw [List.cons_append, hasDatePart_cons (other d List.mem_cons_self),
      ih fun e member => other e (List.mem_cons_of_mem d member)]

theorem hasDatePart_concat (other : c ≠ ',') : HasDatePart (s ++ [c]) ↔ HasDatePart s := by
  constructor
  · intro occurs
    rcases occurs with ⟨part, found⟩
    rcases List.infix_concat_iff.mp found with last | inner
    · obtain ⟨before, split⟩ := last
      rw [← List.append_assoc] at split
      exact absurd (List.cons.inj (List.append_inj' split rfl).2).1.symm other
    · exact ⟨part, inner⟩
  · intro occurs
    rcases occurs with ⟨part, found⟩
    exact ⟨part, List.infix_concat_iff.mpr (Or.inr found)⟩

end Surroundings

section Search
variable {α : Type} {read : Text → Option α}

theorem search_of_read {t : Text} {x : α} (found : read t = some x) : search read t = some x := by
  cases t with
  | nil => exact found
  | cons c rest => simp [search, found]

theorem search_cons_of_none {c : Char} {rest : Text} (missed : read (c :: rest) = none) :
    search read (c :: rest) = search read rest := by
  simp [search, missed]

theorem read_of_search {s : Text} {x : α} (found : search read s = some x) :
    ∃ tail, tail <:+ s ∧ read tail = some x := by
  induction s with
  | nil => exact ⟨[], List.suffix_refl [], found⟩
  | cons c rest ih =>
    cases here : read (c :: rest) with
    | some y =>
      rw [search_of_read here] at found
      exact ⟨c :: rest, List.suffix_refl _, here.trans found⟩
    | none =>
      rw [search_cons_of_none here] at found
      obtain ⟨tail, suffix, reads⟩ := ih found
      exact ⟨tail, suffix.trans (List.suffix_cons c rest), reads⟩

theorem search_isSome {s : Text} :
    (search read s).isSome = true ↔ ∃ tail, tail <:+ s ∧ (read tail).isSome = true := by
  constructor
  · intro found
    obtain ⟨x, hx⟩ := Option.isSome_iff_exists.mp found
    obtain ⟨tail, suffix, reads⟩ := read_of_search hx
    exact ⟨tail, suffix, by rw [reads]; rfl⟩
  · intro somewhere
    rcases somewhere with ⟨tail, ⟨before, rfl⟩, reads⟩
    induction before with
    | nil =>
      obtain ⟨x, hx⟩ := Option.isSome_iff_exists.mp reads
      rw [List.nil_append, search_of_read hx]
      rfl
    | cons c rest ih =>
      cases here : read (c :: (rest ++ tail)) with
      | some y =>
        rw [List.cons_append, search_of_read here]
        rfl
      | none => rw [List.cons_append, search_cons_of_none here, ih]

end Search

theorem line_split (t : Text) : ∃ behind, t = line t ++ behind :=
  ⟨t.dropWhile (· ≠ '\n'), (List.takeWhile_append_dropWhile (p := (· ≠ '\n'))).symm⟩

theorem line_noBreak (t : Text) : '\n' ∉ line t := by
  intro member
  have := List.mem_takeWhile_imp member
  simp at this

theorem line_append {t : Text} (noBreak : '\n' ∉ t) (rest : Text) :
    line (t ++ rest) = t ++ line rest := by
  refine List.takeWhile_append_of_pos ?_
  intro c member
  have : c ≠ '\n' := fun same => noBreak (same ▸ member)
  simpa using this

theorem line_of_noBreak {t : Text} (noBreak : '\n' ∉ t) : line t = t := by
  have := line_append noBreak []
  simpa [line] using this

theorem line_append_cons {t : Text} {c : Char} (noBreak : '\n' ∉ t) (other : c ≠ '\n')
    (rest : Text) : line (t ++ c :: rest) = t ++ c :: line rest := by
  rw [line_append noBreak]
  simp [line, other]

theorem split_of_line {t before after : Text} {c : Char} (split : line t = before ++ c :: after) :
    '\n' ∉ before ∧ ∃ behind, t = before ++ c :: (after ++ behind) ∧
      line (after ++ behind) = after := by
  obtain ⟨behind, whole⟩ := line_split t
  have noBreak := line_noBreak t
  rw [split] at noBreak whole
  simp only [List.mem_append, List.mem_cons, not_or] at noBreak
  refine ⟨noBreak.1, behind, by rw [whole, List.append_assoc, List.cons_append], ?_⟩
  have line_eq := line_append_cons noBreak.1 (Ne.symm noBreak.2.1) (after ++ behind)
  rw [← List.cons_append, ← List.append_assoc, ← whole, split] at line_eq
  exact (List.cons.inj (List.append_cancel_left line_eq)).2.symm

theorem beforeLast?_append {c : Char} {after : Text} (absent : c ∉ after) (before : Text) :
    beforeLast? c (before ++ c :: after) = some before := by
  have skipped : (after.reverse ++ c :: before.reverse).dropWhile (· ≠ c) = c :: before.reverse :=
    (run_of_absent (by simpa using absent) before.reverse).2
  rw [beforeLast?, List.reverse_append, List.reverse_cons, List.append_assoc,
    List.singleton_append, skipped]
  simp

theorem takeWhile_append_cons {c : Char} {before : Text} (absent : c ∉ before) (after : Text) :
    (before ++ c :: after).takeWhile (· ≠ c) = before :=
  (run_of_absent absent after).1

theorem last_occurrence {c : Char} {t : Text} (member : c ∈ t) :
    ∃ before after, t = before ++ c :: after ∧ c ∉ after := by
  obtain ⟨after, before, split, absent⟩ :=
    List.eq_append_cons_of_mem (List.mem_reverse.mpr member)
  refine ⟨before.reverse, after.reverse, ?_, by simpa using absent⟩
  have := congrArg List.reverse split
  simpa using this

theorem beforeLast?_eq_some {c : Char} {t before : Text} :
    beforeLast? c t = some before ↔ ∃ after, t = before ++ c :: after ∧ c ∉ after := by
  constructor
  · intro found
    have member : c ∈ t := by
      by_contra absent
      have nothing : t.reverse.dropWhile (· ≠ c) = [] := by
        rw [List.dropWhile_eq_nil_iff]
        intro d inReverse
        have : d ≠ c := fun same => absent (by simpa [same] using inReverse)
        simpa using this
      rw [beforeLast?, nothing] at found
      cases found
    obtain ⟨first, after, rfl, absent⟩ := last_occurrence member
    rw [beforeLast?_append absent, Option.some.injEq] at found
    exact ⟨after, by rw [found], absent⟩
  · intro asked
    rcases asked with ⟨after, rfl, absent⟩
    exact beforeLast?_append absent before

theorem items?_eq_some {t inner : Text} : items? t = some inner ↔
    ∃ after, t = inner ++ ')' :: after ∧ inner ≠ [] ∧ '\n' ∉ inner ∧ ')' ∉ line after := by
  rw [items?, Option.filter_eq_some_iff, beforeLast?_eq_some]
  constructor
  · intro asked
    rcases asked with ⟨⟨after, split, absent⟩, some⟩
    obtain ⟨noBreak, behind, whole, lineEq⟩ := split_of_line split
    exact ⟨after ++ behind, whole, by simpa using some, noBreak, by rwa [lineEq]⟩
  · intro asked
    rcases asked with ⟨after, rfl, some, noBreak, absent⟩
    exact ⟨⟨line after, line_append_cons noBreak (by decide) after, absent⟩, by simpa using some⟩

theorem setAt?_eq_some {t : Text} {x : Shape} : setAt? t = some x ↔
    ∃ negated items after, x = .set negated items ∧ items ≠ [] ∧ '\n' ∉ items ∧ ')' ∉ line after ∧
      t = (if negated then ['!'] else []) ++ '(' :: (items ++ ')' :: after) := by
  constructor
  · intro found
    unfold setAt? at found
    split at found
    · obtain ⟨items, reads, rfl⟩ := Option.map_eq_some_iff.mp found
      obtain ⟨after, rfl, some, noBreak, last⟩ := items?_eq_some.mp reads
      exact ⟨true, items, after, rfl, some, noBreak, last, rfl⟩
    · obtain ⟨items, reads, rfl⟩ := Option.map_eq_some_iff.mp found
      obtain ⟨after, rfl, some, noBreak, last⟩ := items?_eq_some.mp reads
      exact ⟨false, items, after, rfl, some, noBreak, last, rfl⟩
    · cases found
  · intro asked
    rcases asked with ⟨negated, items, after, rfl, some, noBreak, last, rfl⟩
    have reads := items?_eq_some.mpr ⟨after, rfl, some, noBreak, last⟩
    cases negated <;> simp [setAt?, reads]

theorem rangeAt?_eq_some {t : Text} {x : Shape} : rangeAt? t = some x ↔
    ∃ low high after, x = .range low high ∧ '\n' ∉ low ∧ ',' ∉ low ∧ '\n' ∉ high ∧ ']' ∉ high ∧
      t = '[' :: (low ++ ',' :: (high ++ ']' :: after)) := by
  constructor
  · intro found
    unfold rangeAt? at found
    split at found
    · rename_i rest
      simp only [Option.bind_eq_bind, Option.bind_eq_some_iff, Prod.exists, cutAt?_eq_some,
        Option.pure_def, Option.some.injEq] at found
      obtain ⟨low, tail, ⟨lineEq, noComma⟩, high, more, ⟨rfl, noBracket⟩, rfl⟩ := found
      obtain ⟨lowNoBreak, behind, rfl, tailEq⟩ := split_of_line lineEq
      obtain ⟨highNoBreak, _⟩ := split_of_line tailEq
      exact ⟨low, high, more ++ behind, rfl, lowNoBreak, noComma, highNoBreak, noBracket, by simp⟩
    · cases found
  · intro asked
    rcases asked with ⟨low, high, after, rfl, lowNoBreak, noComma, highNoBreak, noBracket, rfl⟩
    rw [rangeAt?, line_append_cons lowNoBreak (by decide),
      line_append_cons highNoBreak (by decide), cutAt?_append noComma]
    simp [cutAt?_append noBracket]

theorem datePartAt?_eq_some {t : Text} {x : Shape} : datePartAt? t = some x ↔
    ∃ part rest, x = .datePart part (line rest) ∧ t = part.name ++ ',' :: rest := by
  constructor
  · intro found
    obtain ⟨part, _, reads⟩ := List.exists_of_findSome?_eq_some found
    dsimp only at reads
    split at reads
    · rename_i opens
      obtain ⟨rest, rfl⟩ := List.isPrefixOf_iff_prefix.mp opens
      rw [List.drop_left, Option.some.injEq] at reads
      exact ⟨part, rest, reads.symm, by simp⟩
    · cases reads
  · intro asked
    rcases asked with ⟨part, rest, rfl, rfl⟩
    cases part <;> rfl

theorem patternAt?_eq_some {t : Text} {x : Shape} : patternAt? t = some x ↔
    ∃ inner after, x = .pattern ('%' :: inner ++ ['%']) ∧ inner ≠ [] ∧ '%' ∉ inner ∧
      t = '%' :: (inner ++ '%' :: after) := by
  constructor
  · intro found
    unfold patternAt? at found
    split at found
    · rename_i rest
      dsimp only at found
      split at found
      · rename_i holds
        obtain ⟨inner, after, rfl, absent⟩ := List.eq_append_cons_of_mem holds.2
        rw [takeWhile_append_cons absent, Option.some.injEq] at found
        rw [takeWhile_append_cons absent] at holds
        exact ⟨inner, after, found.symm, holds.1, absent, rfl⟩
      · cases found
    · cases found
  · intro asked
    rcases asked with ⟨inner, after, rfl, some, absent, rfl⟩
    have member : '%' ∈ inner ++ '%' :: after := by simp
    simp only [patternAt?, takeWhile_append_cons absent]
    rw [if_pos ⟨some, member⟩]

theorem regexpAt?_eq_some {t : Text} {x : Shape} : regexpAt? t = some x ↔
    ∃ inner after, x = .regexp inner ∧ '\n' ∉ inner ∧ '/' ∉ line after ∧
      t = '/' :: (inner ++ '/' :: after) := by
  constructor
  · intro found
    unfold regexpAt? at found
    split at found
    · obtain ⟨inner, reads, rfl⟩ := Option.map_eq_some_iff.mp found
      obtain ⟨after, split, last⟩ := beforeLast?_eq_some.mp reads
      obtain ⟨noBreak, behind, rfl, lineEq⟩ := split_of_line split
      exact ⟨inner, after ++ behind, rfl, noBreak, by rwa [lineEq], rfl⟩
    · cases found
  · intro asked
    rcases asked with ⟨inner, after, rfl, noBreak, last, rfl⟩
    rw [regexpAt?, line_append_cons noBreak (by decide), beforeLast?_append last]
    rfl

theorem last_on_line {c : Char} (other : c ≠ '\n') (after : Text) :
    ∃ more rest, c :: after = more ++ c :: rest ∧ '\n' ∉ more ∧ c ∉ line rest := by
  have lineEq : line (c :: after) = c :: line after := line_append_cons (t := []) (by simp) other after
  obtain ⟨more, tail, split, last⟩ := last_occurrence (c := c) (t := c :: line after) (by simp)
  rw [split] at lineEq
  obtain ⟨noBreak, behind, whole, tailEq⟩ := split_of_line lineEq
  exact ⟨more, tail ++ behind, whole, noBreak, by rwa [tailEq]⟩

section Positions
variable {t : Text}

theorem setAt?_isSome : (setAt? t).isSome = true ↔
    OpensSet t ∨ ∃ rest, t = '!' :: rest ∧ OpensSet rest := by
  constructor
  · intro found
    obtain ⟨x, reads⟩ := Option.isSome_iff_exists.mp found
    obtain ⟨negated, items, after, _, some, noBreak, _, rfl⟩ := setAt?_eq_some.mp reads
    have opens : OpensSet ('(' :: (items ++ ')' :: after)) := ⟨items, after, rfl, some, noBreak⟩
    cases negated with
    | false => exact Or.inl opens
    | true => exact Or.inr ⟨_, rfl, opens⟩
  · have reads (negated : Bool) {rest : Text} (opens : OpensSet rest) :
        (setAt? ((if negated then ['!'] else []) ++ rest)).isSome = true := by
      obtain ⟨inner, after, rfl, some, noBreak⟩ := opens
      obtain ⟨more, last, split, moreNoBreak, absent⟩ := last_on_line (c := ')') (by decide) after
      rw [setAt?_eq_some.mpr ⟨negated, inner ++ more, last, rfl, by simp [some],
        by simp [noBreak, moreNoBreak], absent, by simp [split]⟩]
      rfl
    rintro (opens | ⟨rest, rfl, opens⟩)
    · exact reads false opens
    · exact reads true opens

theorem rangeAt?_isSome : (rangeAt? t).isSome = true ↔ OpensRange t := by
  constructor
  · intro found
    obtain ⟨x, reads⟩ := Option.isSome_iff_exists.mp found
    obtain ⟨low, high, after, _, lowNoBreak, _, highNoBreak, _, rfl⟩ := rangeAt?_eq_some.mp reads
    refine ⟨low ++ ',' :: high, after, by simp, by simp, ?_⟩
    simp [lowNoBreak, highNoBreak]
  · intro opens
    rcases opens with ⟨inner, after, rfl, comma, noBreak⟩
    obtain ⟨low, tail, rfl, noComma⟩ := List.eq_append_cons_of_mem comma
    obtain ⟨high, more, split, noBracket⟩ :=
      List.eq_append_cons_of_mem (show ']' ∈ tail ++ [']'] by simp)
    have tailNoBreak : '\n' ∉ tail ++ [']'] := by
      simp only [List.mem_append, List.mem_cons, not_or] at noBreak
      simp [noBreak.2.2]
    have whole : tail ++ ']' :: after = high ++ ']' :: (more ++ after) := by
      rw [← List.singleton_append, ← List.append_assoc, split]
      simp
    have reads : rangeAt? ('[' :: (low ++ ',' :: tail ++ ']' :: after)) = some (.range low high) := by
      refine rangeAt?_eq_some.mpr ⟨low, high, more ++ after, rfl, ?_, noComma, ?_, noBracket, ?_⟩
      · exact fun member => noBreak (by simp [member])
      · exact fun member => tailNoBreak (by rw [split]; simp [member])
      · simp [whole]
    rw [reads]
    rfl

theorem datePartAt?_isSome : (datePartAt? t).isSome = true ↔ OpensDatePart t := by
  constructor
  · intro found
    obtain ⟨x, reads⟩ := Option.isSome_iff_exists.mp found
    obtain ⟨part, rest, _, rfl⟩ := datePartAt?_eq_some.mp reads
    exact ⟨part, rest, by simp⟩
  · intro opens
    rcases opens with ⟨part, rest, rfl⟩
    rw [datePartAt?_eq_some.mpr ⟨part, rest, rfl, by simp⟩]
    rfl

theorem patternAt?_isSome : (patternAt? t).isSome = true ↔ OpensPattern t := by
  constructor
  · intro found
    obtain ⟨x, reads⟩ := Option.isSome_iff_exists.mp found
    obtain ⟨inner, after, _, some, absent, rfl⟩ := patternAt?_eq_some.mp reads
    exact ⟨inner, after, rfl, some, absent⟩
  · intro opens
    rcases opens with ⟨inner, after, rfl, some, absent⟩
    rw [patternAt?_eq_some.mpr ⟨inner, after, rfl, some, absent, rfl⟩]
    rfl

theorem regexpAt?_isSome : (regexpAt? t).isSome = true ↔ OpensRegexp t := by
  constructor
  · intro found
    obtain ⟨x, reads⟩ := Option.isSome_iff_exists.mp found
    obtain ⟨inner, after, _, noBreak, _, rfl⟩ := regexpAt?_eq_some.mp reads
    exact ⟨inner, after, rfl, noBreak⟩
  · intro opens
    rcases opens with ⟨inner, after, rfl, noBreak⟩
    obtain ⟨more, rest, split, moreNoBreak, last⟩ := last_on_line (c := '/') (by decide) after
    rw [regexpAt?_eq_some.mpr ⟨inner ++ more, rest, rfl, by simp [noBreak, moreNoBreak], last,
      by simp [split]⟩]
    rfl

end Positions

theorem search_setAt?_isSome {s : Text} : (search setAt? s).isSome = true ↔ HasSet s := by
  rw [search_isSome, HasSet, encloses_iff_opens]
  constructor
  · intro somewhere
    rcases somewhere with ⟨tail, suffix, found⟩
    rcases setAt?_isSome.mp found with opens | ⟨rest, rfl, opens⟩
    · exact ⟨tail, suffix, opens⟩
    · exact ⟨rest, (List.suffix_cons '!' rest).trans suffix, opens⟩
  · intro has
    rcases has with ⟨tail, suffix, opens⟩
    exact ⟨tail, suffix, setAt?_isSome.mpr (Or.inl opens)⟩

theorem search_rangeAt?_isSome {s : Text} : (search rangeAt? s).isSome = true ↔ HasRange s := by
  simp only [search_isSome, rangeAt?_isSome]
  exact encloses_iff_opens.symm

theorem search_datePartAt?_isSome {s : Text} :
    (search datePartAt? s).isSome = true ↔ HasDatePart s := by
  simp only [search_isSome, datePartAt?_isSome]
  exact hasDatePart_iff_opens.symm

theorem search_patternAt?_isSome {s : Text} :
    (search patternAt? s).isSome = true ↔ HasPattern s := by
  simp only [search_isSome, patternAt?_isSome]
  exact encloses_iff_opens.symm

theorem search_regexpAt?_isSome {s : Text} :
    (search regexpAt? s).isSome = true ↔ HasRegexp s := by
  simp only [search_isSome, regexpAt?_isSome]
  exact encloses_iff_opens.symm

instance : DecidablePred HasSet := fun _ => decidable_of_iff _ search_setAt?_isSome

instance : DecidablePred HasRange := fun _ => decidable_of_iff _ search_rangeAt?_isSome

instance : DecidablePred HasDatePart := fun _ => decidable_of_iff _ search_datePartAt?_isSome

instance : DecidablePred HasPattern := fun _ => decidable_of_iff _ search_patternAt?_isSome

instance : DecidablePred HasRegexp := fun _ => decidable_of_iff _ search_regexpAt?_isSome

section Choice
variable {s : Text} {x : Shape}

theorem search_eq_none {read : Text → Option Shape} {Has : Text → Prop}
    (isSome : (search read s).isSome = true ↔ Has s) (missing : ¬ Has s) : search read s = none :=
  Option.not_isSome_iff_eq_none.mp (mt isSome.mp missing)

theorem ofCondition_of_set (found : search setAt? s = some x) : ofCondition s = x := by
  simp [ofCondition, found]

theorem ofCondition_of_range (noSet : ¬ HasSet s) (found : search rangeAt? s = some x) :
    ofCondition s = x := by
  simp [ofCondition, search_eq_none search_setAt?_isSome noSet, found]

theorem ofCondition_of_datePart (noSet : ¬ HasSet s) (noRange : ¬ HasRange s)
    (found : search datePartAt? s = some x) : ofCondition s = x := by
  simp [ofCondition, search_eq_none search_setAt?_isSome noSet,
    search_eq_none search_rangeAt?_isSome noRange, found]

theorem ofCondition_of_pattern (noSet : ¬ HasSet s) (noRange : ¬ HasRange s)
    (noDatePart : ¬ HasDatePart s) (found : search patternAt? s = some x) : ofCondition s = x := by
  simp [ofCondition, search_eq_none search_setAt?_isSome noSet,
    search_eq_none search_rangeAt?_isSome noRange,
    search_eq_none search_datePartAt?_isSome noDatePart, found]

theorem ofCondition_of_regexp (noSet : ¬ HasSet s) (noRange : ¬ HasRange s)
    (noDatePart : ¬ HasDatePart s) (noPattern : ¬ HasPattern s)
    (found : search regexpAt? s = some x) : ofCondition s = x := by
  simp [ofCondition, search_eq_none search_setAt?_isSome noSet,
    search_eq_none search_rangeAt?_isSome noRange,
    search_eq_none search_datePartAt?_isSome noDatePart,
    search_eq_none search_patternAt?_isSome noPattern, found]

theorem ofCondition_of_basic (noSet : ¬ HasSet s) (noRange : ¬ HasRange s)
    (noDatePart : ¬ HasDatePart s) (noPattern : ¬ HasPattern s) (noRegexp : ¬ HasRegexp s) :
    ofCondition s = basicOf s := by
  simp [ofCondition, search_eq_none search_setAt?_isSome noSet,
    search_eq_none search_rangeAt?_isSome noRange,
    search_eq_none search_datePartAt?_isSome noDatePart,
    search_eq_none search_patternAt?_isSome noPattern,
    search_eq_none search_regexpAt?_isSome noRegexp]

theorem found_name {read : Text → Option Shape} {name : Text}
    (named : ∀ t x, read t = some x → x.name = name) (found : (search read s).isSome = true) :
    ∃ x, search read s = some x ∧ x.name = name := by
  obtain ⟨x, finds⟩ := Option.isSome_iff_exists.mp found
  obtain ⟨tail, _, reads⟩ := read_of_search finds
  exact ⟨x, finds, named tail x reads⟩

theorem setAt?_name (t : Text) (x : Shape) (reads : setAt? t = some x) :
    x.name = "set".toList := by
  obtain ⟨negated, items, after, rfl, _⟩ := setAt?_eq_some.mp reads
  rfl

theorem rangeAt?_name (t : Text) (x : Shape) (reads : rangeAt? t = some x) :
    x.name = "range".toList := by
  obtain ⟨low, high, after, rfl, _⟩ := rangeAt?_eq_some.mp reads
  rfl

theorem datePartAt?_name (t : Text) (x : Shape) (reads : datePartAt? t = some x) :
    x.name = "date_part".toList := by
  obtain ⟨part, rest, rfl, _⟩ := datePartAt?_eq_some.mp reads
  rfl

theorem patternAt?_name (t : Text) (x : Shape) (reads : patternAt? t = some x) :
    x.name = "pattern".toList := by
  obtain ⟨inner, after, rfl, _⟩ := patternAt?_eq_some.mp reads
  rfl

theorem regexpAt?_name (t : Text) (x : Shape) (reads : regexpAt? t = some x) :
    x.name = "regexp".toList := by
  obtain ⟨inner, after, rfl, _⟩ := regexpAt?_eq_some.mp reads
  rfl

theorem basicOf_name (t : Text) : (basicOf t).name = "basic".toList := by
  unfold basicOf
  split <;> rfl

end Choice

/-- Every condition has a shape, and it is the first of the six whose characters occur in it. -/
theorem ofCondition_name (s : Text) : (ofCondition s).name =
    if HasSet s then "set".toList
    else if HasRange s then "range".toList
    else if HasDatePart s then "date_part".toList
    else if HasPattern s then "pattern".toList
    else if HasRegexp s then "regexp".toList
    else "basic".toList := by
  split
  · rename_i set
    obtain ⟨x, finds, named⟩ := found_name setAt?_name (search_setAt?_isSome.mpr set)
    rw [ofCondition_of_set finds, named]
  rename_i noSet
  split
  · rename_i range
    obtain ⟨x, finds, named⟩ := found_name rangeAt?_name (search_rangeAt?_isSome.mpr range)
    rw [ofCondition_of_range noSet finds, named]
  rename_i noRange
  split
  · rename_i datePart
    obtain ⟨x, finds, named⟩ :=
      found_name datePartAt?_name (search_datePartAt?_isSome.mpr datePart)
    rw [ofCondition_of_datePart noSet noRange finds, named]
  rename_i noDatePart
  split
  · rename_i pattern
    obtain ⟨x, finds, named⟩ := found_name patternAt?_name (search_patternAt?_isSome.mpr pattern)
    rw [ofCondition_of_pattern noSet noRange noDatePart finds, named]
  rename_i noPattern
  split
  · rename_i regexp
    obtain ⟨x, finds, named⟩ := found_name regexpAt?_name (search_regexpAt?_isSome.mpr regexp)
    rw [ofCondition_of_regexp noSet noRange noDatePart noPattern finds, named]
  rename_i noRegexp
  rw [ofCondition_of_basic noSet noRange noDatePart noPattern noRegexp, basicOf_name]

end SearchBox.Shape
