import SearchBox.Proofs.TokenLayout

/- Which parts of a search text stay together. A part that neither starts nor ends with a blank lies in one
   token just when none of its blanks separates. For a part between two double quotes, counted off from the
   left, that depends on the quotes behind it. -/
namespace SearchBox.Token
open Text

/-- `Behind tokens t`: the text `t` is a gap, the first token, a gap, the second token and so on. -/
inductive Behind : List Text → Text → Prop where
  | none : Behind [] []
  | next {gap token rest : Text} {tokens : List Text} (apart : gap ≠ []) (blanks : Blanks gap)
      (others : Behind tokens rest) : Behind (token :: tokens) (gap ++ token ++ rest)

/-- `Inside part tokens before after`: the text `before ++ part ++ after` is the tokens with gaps between
    them, and `part` is in one of the tokens at this place. -/
inductive Inside (part : Text) : List Text → Text → Text → Prop where
  | here (left right : Text) {rest : Text} {tokens : List Text} (others : Behind tokens rest) :
      Inside part ((left ++ part ++ right) :: tokens) left (right ++ rest)
  | later {token gap before after : Text} {tokens : List Text} (apart : gap ≠ [])
      (blanks : Blanks gap) (inside : Inside part tokens before after) :
      Inside part (token :: tokens) (token ++ gap ++ before) after

/-- Whether `part`, at its place between `before` and `after`, is in one token of the whole text. The blanks
    at both ends of the text belong to no token. -/
def WithinToken (before part after : Text) : Prop :=
  ∃ lead first last trail, Blanks lead ∧ Blanks trail ∧ before = lead ++ first ∧
    after = last ++ trail ∧ Inside part (tokenize (before ++ part ++ after)) first last

theorem behind_of_layout {tokens gaps : List Text} {t : Text} (layout : Layout tokens gaps t) :
    ∃ first others rest, tokens = first :: others ∧ t = first ++ rest ∧ Behind others rest := by
  induction layout with
  | @last token some solid => exact ⟨token, [], [], rfl, (List.append_nil token).symm, .none⟩
  | @more token gap rest tokens gaps some solid apart parting tail ih =>
    obtain ⟨first, others, behind, rfl, rfl, ordered⟩ := ih
    refine ⟨token, first :: others, gap ++ first ++ behind, rfl, ?_,
      .next apart (parting_blanks parting) ordered⟩
    simp only [List.append_assoc]

theorem parting_not_solid {a x rest p y after : Text} {c : Char}
    (parting : Parting (a ++ c :: x) rest) (solid : Solid (p ++ c :: y) after)
    (same : x ++ rest = y ++ after) : False := by
  obtain ⟨blank, even⟩ := parting a c x rfl
  have odd := solid p c y rfl blank
  rw [same] at even
  omega

theorem beside_gap {token gap rest before part after : Text}
    (split : token ++ gap ++ rest = before ++ part ++ after) (apart : gap ≠ [])
    (parting : Parting gap rest) (some : part ≠ []) (solid : Solid part after) :
    (∃ right, token = before ++ part ++ right ∧ after = right ++ gap ++ rest) ∨
      ∃ between, before = token ++ gap ++ between ∧ rest = between ++ part ++ after := by
  rw [List.append_assoc, List.append_assoc] at split
  -- in both overlaps a blank of the gap would be a blank of the part
  rcases List.append_eq_append_iff.mp split with ⟨a, beforeSplit, behind⟩ | ⟨a, tokenSplit, behind⟩
  · right
    rcases List.append_eq_append_iff.mp behind with ⟨b, aSplit, restSplit⟩ | ⟨b, gapSplit, others⟩
    · exact ⟨b, by simp [beforeSplit, aSplit], by simp [restSplit]⟩
    · cases b with
      | nil =>
        rw [List.append_nil] at gapSplit
        exact ⟨[], by simp [beforeSplit, gapSplit], by simpa using others.symm⟩
      | cons c x =>
        obtain ⟨d, y, rfl⟩ := List.exists_cons_of_ne_nil some
        obtain ⟨rfl, same⟩ := List.cons.inj others
        subst gapSplit
        exact (parting_not_solid (p := []) parting solid same.symm).elim
  · left
    rcases List.append_eq_append_iff.mp behind with ⟨b, aSplit, afterSplit⟩ | ⟨b, partSplit, others⟩
    · exact ⟨b, by simp [tokenSplit, aSplit], by simp [afterSplit]⟩
    · cases b with
      | nil =>
        rw [List.append_nil] at partSplit
        exact ⟨[], by simp [tokenSplit, partSplit], by simpa using others.symm⟩
      | cons c y =>
        obtain ⟨d, x, rfl⟩ := List.exists_cons_of_ne_nil apart
        obtain ⟨rfl, same⟩ := List.cons.inj others
        subst partSplit
        exact (parting_not_solid (a := []) parting solid same).elim

theorem inside_of_layout {tokens gaps : List Text} {t part before after : Text}
    (layout : Layout tokens gaps t) (split : t = before ++ part ++ after) (some : part ≠ [])
    (solid : Solid part after) : Inside part tokens before after := by
  induction layout generalizing before with
  | last =>
    have here : Inside part [before ++ part ++ after] before (after ++ []) :=
      .here before after .none
    rwa [List.append_nil, ← split] at here
  | @more token gap rest tokens gaps first others apart parting tail ih =>
    rcases beside_gap split apart parting some solid with
      ⟨right, rfl, rfl⟩ | ⟨between, rfl, restSplit⟩
    · obtain ⟨next, more, behind, rfl, rfl, ordered⟩ := behind_of_layout tail
      have here : Inside part ((before ++ part ++ right) :: next :: more) before
          (right ++ (gap ++ next ++ behind)) :=
        .here before right (.next apart (parting_blanks parting) ordered)
      simpa only [List.append_assoc] using here
    · exact .later apart (parting_blanks parting) (ih restSplit)

theorem layout_solid {tokens gaps : List Text} {t : Text} (layout : Layout tokens gaps t) :
    ∀ token ∈ tokens, Solid token [] := by
  induction layout with
  | last some solid => simpa using solid
  | more some solid apart parting tail ih =>
    have even := parting_even apart parting
    intro token member
    rcases List.mem_cons.mp member with rfl | later
    · refine (solid_iff_of_even ?_).mp solid
      rw [quoteCount_blanks_append (parting_blanks parting), even]
    · exact ih token later

/-- A quote without a partner can only be in the first token: what stands behind a gap is balanced. -/
theorem layout_balanced {tokens gaps : List Text} {t : Text} (layout : Layout tokens gaps t) :
    ∃ first others, tokens = first :: others ∧ quoteCount t % 2 = quoteCount first % 2 ∧
      ∀ token ∈ others, quoteCount token % 2 = 0 := by
  induction layout with
  | @last token some solid => exact ⟨token, [], rfl, rfl, by simp⟩
  | @more token gap rest tokens gaps some solid apart parting tail ih =>
    have even := parting_even apart parting
    obtain ⟨next, others, rfl, same, balanced⟩ := ih
    refine ⟨token, next :: others, rfl, ?_, ?_⟩
    · rw [List.append_assoc, quoteCount_append, quoteCount_blanks_append (parting_blanks parting)]
      omega
    · intro later member
      rcases List.mem_cons.mp member with rfl | inOthers
      · rw [← same, even]
      · exact balanced later inOthers

theorem behind_balanced {tokens : List Text} {t : Text} (behind : Behind tokens t)
    (balanced : ∀ token ∈ tokens, quoteCount token % 2 = 0) : quoteCount t % 2 = 0 := by
  induction behind with
  | none => rfl
  | @next gap token rest tokens apart blanks others ih =>
    have tokenEven := balanced token List.mem_cons_self
    have restEven := ih fun later member => balanced later (List.mem_cons_of_mem token member)
    rw [List.append_assoc, quoteCount_blanks_append blanks, quoteCount_append]
    omega

theorem solid_of_inside {part before after : Text} {tokens : List Text}
    (inside : Inside part tokens before after) (solid : ∀ token ∈ tokens, Solid token [])
    (balanced : ∀ token ∈ tokens.tail, quoteCount token % 2 = 0) : Solid part after := by
  induction inside with
  | @here left right rest tokens others =>
    have whole := solid (left ++ part ++ right) List.mem_cons_self
    rw [List.append_assoc] at whole
    have ownPart := (solid_append.mp (solid_append.mp whole).2).1
    have restEven := behind_balanced others balanced
    refine (solid_congr ?_).mp ownPart
    rw [List.append_nil, quoteCount_append]
    omega
  | later apart blanks inside ih =>
    refine ih (fun token member => solid token (List.mem_cons_of_mem _ member)) ?_
    intro token member
    exact balanced token (List.mem_of_mem_tail member)

theorem withinToken_iff_solid {part : Text} (some : part ≠ []) (start : StartsDark part)
    (finish : EndsDark part) (before after : Text) :
    WithinToken before part after ↔ Solid part after := by
  have trimmed := trim_around_dark some start finish before after
  have filled : (before ++ part ++ after).trim ≠ [] := by
    rw [trimmed]
    simp [some]
  obtain ⟨gaps, layout⟩ := layout_pieces _ filled (trim_startsDark _) (trim_endsDark _)
  rw [← tokenize_eq_pieces_trim, trimmed] at layout
  obtain ⟨trail, trailBlanks, afterSplit⟩ := trimEnd_split after
  constructor
  · rintro ⟨_, first, last, blanks, _, lightBlanks, rfl, rfl, inside⟩
    obtain ⟨head, others, tokens, _, balanced⟩ := layout_balanced layout
    have solid := solid_of_inside inside (layout_solid layout) (by rw [tokens]; exact balanced)
    refine (solid_congr ?_).mp solid
    rw [quoteCount_append, quoteCount_blanks lightBlanks, Nat.add_zero]
  · intro solid
    obtain ⟨lead, leadBlanks, beforeSplit⟩ := trimStart_split before
    have sameCount := quoteCount_append after.trimEnd trail
    rw [← afterSplit, quoteCount_blanks trailBlanks, Nat.add_zero] at sameCount
    have inTrimmed : Solid part after.trimEnd := (solid_congr (by rw [sameCount])).mp solid
    exact ⟨lead, before.trimStart, after.trimEnd, trail, leadBlanks, trailBlanks, beforeSplit,
      afterSplit, inside_of_layout layout rfl some inTrimmed⟩

theorem quoteCount_eq_zero {t : Text} : quoteCount t = 0 ↔ '"' ∉ t := List.count_eq_zero

theorem solid_of_unquoted {t : Text} (unquoted : '"' ∉ t) (rest : Text) :
    Solid t rest ↔ quoteCount rest % 2 = 1 ∨ ∀ c ∈ t, isBlank c = false := by
  have behind {before after : Text} {c : Char} (split : t = before ++ c :: after) :
      quoteCount (after ++ rest) = quoteCount rest := by
    have none : '"' ∉ after := by
      intro member
      exact unquoted (by rw [split]; simp [member])
    rw [quoteCount_append, quoteCount_eq_zero.mpr none, Nat.zero_add]
  constructor
  · intro solid
    by_cases odd : quoteCount rest % 2 = 1
    · exact Or.inl odd
    · right
      intro c member
      obtain ⟨before, after, split⟩ := List.append_of_mem member
      by_contra light
      have := solid before c after split (by simpa using light)
      rw [behind split] at this
      exact odd this
  · rintro (odd | dark)
    · intro before c after split _
      rw [behind split, odd]
    · exact solid_of_no_blank dark rest

theorem solid_quoted {inner : Text} (unquoted : '"' ∉ inner) (after : Text) :
    Solid ('"' :: inner ++ ['"']) after ↔
      quoteCount after % 2 = 0 ∨ ∀ c ∈ inner, isBlank c = false := by
  have closing : quoteCount (['"'] ++ after) % 2 = 1 ↔ quoteCount after % 2 = 0 := by
    rw [quoteCount_append, show quoteCount ['"'] = 1 from rfl]
    omega
  have last : Solid ['"'] after := (solid_cons_dark (by decide)).mpr (solid_nil after)
  rw [List.cons_append, solid_cons_dark (by decide), solid_append, and_iff_left last,
    solid_of_unquoted unquoted, closing]

/-- Double quotes are paired from the left, and a last one may be left over. A part from an opening quote to
    the closing one is in one token just when no quote is left over or there is no blank in the part: the
    cut goes by the quotes behind a blank, and a quote left over changes the parity of all of them. -/
theorem quoted_withinToken (before inner after : Text) (opening : quoteCount before % 2 = 0)
    (unquoted : '"' ∉ inner) :
    WithinToken before ('"' :: inner ++ ['"']) after ↔
      quoteCount (before ++ ('"' :: inner ++ ['"']) ++ after) % 2 = 0 ∨
        ∀ c ∈ inner, isBlank c = false := by
  have total : quoteCount (before ++ ('"' :: inner ++ ['"']) ++ after) % 2 = quoteCount after % 2 := by
    have pair : quoteCount ('"' :: inner ++ ['"']) = 2 := by
      simp [quoteCount, List.count_eq_zero.mpr unquoted]
    rw [quoteCount_append, quoteCount_append, pair]
    omega
  have start : StartsDark ('"' :: inner ++ ['"']) := by
    intro c head
    cases head
    decide
  have finish : EndsDark ('"' :: inner ++ ['"']) := by
    rw [endsDark_append _ (List.cons_ne_nil '"' [])]
    intro c last
    cases last
    decide
  rw [withinToken_iff_solid (by simp) start finish, solid_quoted unquoted, total]

theorem quoted_withinToken_pair :
    quoteCount "x \"\" ".toList % 2 = 0 ∧ '"' ∉ "a b".toList ∧
      WithinToken "x \"\" ".toList "\"a b\"".toList " c".toList :=
  ⟨by decide, by decide,
    (quoted_withinToken _ "a b".toList _ (by decide) (by decide)).mpr (Or.inl (by decide))⟩

theorem quoted_part_torn :
    ¬ ∀ before inner after : Text, quoteCount before % 2 = 0 → '"' ∉ inner →
      ∃ token ∈ tokenize (before ++ ('"' :: inner ++ ['"']) ++ after),
        ('"' :: inner ++ ['"']) <:+: token := by
  intro all
  have kept := all [] "a b".toList "\"".toList (by decide) (by decide)
  revert kept
  decide

end SearchBox.Token
