import SearchBox.Proofs.TextCuts
import SearchBox.Proofs.TrimmedText
import SearchBox.Token

/- Where a search text is cut. The cut reads the quotes to the right of a blank, so whatever holds an even
   number of quotes can be added behind a text without moving the cuts in it. -/
namespace SearchBox.Token
open Text

theorem quoteCount_append (a b : Text) : quoteCount (a ++ b) = quoteCount a + quoteCount b :=
  List.count_append

theorem blank_ne_quote {c : Char} (blank : isBlank c = true) : c ≠ '"' := by
  rintro rfl
  exact absurd blank (by decide)

theorem quoteCount_cons_blank {c : Char} (blank : isBlank c = true) (t : Text) :
    quoteCount (c :: t) = quoteCount t := by
  simp [quoteCount, blank_ne_quote blank]

theorem quoteCount_blanks {w : Text} (blanks : Blanks w) : quoteCount w = 0 := by
  rw [quoteCount, List.count_eq_zero]
  intro quote
  exact blank_ne_quote (blanks '"' quote) rfl

theorem quoteCount_blanks_append {w : Text} (blanks : Blanks w) (t : Text) :
    quoteCount (w ++ t) = quoteCount t := by
  rw [quoteCount_append, quoteCount_blanks blanks, Nat.zero_add]

/-- All pieces of a cut, the empty ones between two separating blanks included. -/
def rawPieces (t : Text) : List Text := (cut t).1 :: (cut t).2

def pieces (t : Text) : List Text := (rawPieces t).filter (· ≠ [])

theorem tokenize_eq_pieces_trim (raw : Text) : tokenize raw = pieces raw.trim := rfl

theorem rawPieces_cons_separator {c : Char} {rest : Text} (blank : isBlank c = true)
    (even : quoteCount rest % 2 = 0) : rawPieces (c :: rest) = [] :: rawPieces rest := by
  simp [rawPieces, cut, blank, even]

theorem rawPieces_cons_kept {c : Char} {rest : Text}
    (kept : ¬ (isBlank c = true ∧ quoteCount rest % 2 = 0)) :
    rawPieces (c :: rest) = (c :: (cut rest).1) :: (cut rest).2 := by
  simp only [rawPieces, cut, if_neg kept]

/-- What follows a separating blank is cut on its own, and so is what stands before it. -/
theorem rawPieces_append_separator (a : Text) {c : Char} {b : Text} (blank : isBlank c = true)
    (even : quoteCount b % 2 = 0) :
    rawPieces (a ++ c :: b) = rawPieces a ++ rawPieces b := by
  induction a with
  | nil => simpa [rawPieces, cut] using rawPieces_cons_separator blank even
  | cons d rest ih =>
    have parity : quoteCount (rest ++ c :: b) % 2 = quoteCount rest % 2 := by
      rw [quoteCount_append, quoteCount_cons_blank blank]
      omega
    by_cases separates : isBlank d = true ∧ quoteCount rest % 2 = 0
    · rw [List.cons_append, rawPieces_cons_separator separates.1 (by rw [parity]; exact separates.2),
        rawPieces_cons_separator separates.1 separates.2, ih, List.cons_append]
    · have kept : ¬ (isBlank d = true ∧ quoteCount (rest ++ c :: b) % 2 = 0) := by
        rwa [parity]
      simp only [rawPieces, List.cons_append, List.cons.injEq] at ih
      rw [List.cons_append, rawPieces_cons_kept kept, rawPieces_cons_kept separates, ih.1, ih.2]
      rfl

theorem pieces_append_separator (a : Text) {c : Char} {b : Text} (blank : isBlank c = true)
    (even : quoteCount b % 2 = 0) : pieces (a ++ c :: b) = pieces a ++ pieces b := by
  rw [pieces, rawPieces_append_separator a blank even, List.filter_append]
  rfl

theorem pieces_blanks_append {w : Text} (blanks : Blanks w) {b : Text}
    (even : quoteCount b % 2 = 0) : pieces (w ++ b) = pieces b := by
  induction w with
  | nil => rfl
  | cons c rest ih =>
    have tail : Blanks rest := fun d hd => blanks d (List.mem_cons_of_mem c hd)
    have restEven : quoteCount (rest ++ b) % 2 = 0 := by
      rw [quoteCount_blanks_append tail, even]
    have := pieces_append_separator [] (blanks c List.mem_cons_self) restEven
    rw [List.nil_append] at this
    rw [List.cons_append, this, ih tail]
    rfl

theorem pieces_append_gap (a : Text) {w b : Text} (gap : w ≠ []) (blanks : Blanks w)
    (even : quoteCount b % 2 = 0) : pieces (a ++ w ++ b) = pieces a ++ pieces b := by
  obtain ⟨c, rest, rfl⟩ := List.exists_cons_of_ne_nil gap
  have tail : Blanks rest := fun d hd => blanks d (List.mem_cons_of_mem c hd)
  have restEven : quoteCount (rest ++ b) % 2 = 0 := by
    rw [quoteCount_blanks_append tail, even]
  rw [List.append_assoc, List.cons_append,
    pieces_append_separator a (blanks c List.mem_cons_self) restEven,
    pieces_blanks_append tail even]

theorem pieces_append_blanks (a : Text) {w : Text} (blanks : Blanks w) :
    pieces (a ++ w) = pieces a := by
  by_cases empty : w = []
  · rw [empty, List.append_nil]
  · have := pieces_append_gap a (b := []) empty blanks rfl
    simpa [pieces, rawPieces, cut] using this

theorem tokenize_eq_pieces_trimStart (raw : Text) : tokenize raw = pieces raw.trimStart := by
  obtain ⟨trail, blanks, split⟩ := trimEnd_split raw.trimStart
  have := pieces_append_blanks raw.trimStart.trimEnd blanks
  rw [← split] at this
  rw [tokenize_eq_pieces_trim, trim, this]

theorem tokenize_of_blanks {t : Text} (blanks : Blanks t) : tokenize t = [] := by
  rw [tokenize_eq_pieces_trimStart, trimStart_eq_nil.mpr blanks]
  rfl

theorem tokenize_of_even {t : Text} (even : quoteCount t % 2 = 0) : tokenize t = pieces t := by
  obtain ⟨lead, blanks, split⟩ := trimStart_split t
  have count := quoteCount_blanks_append blanks t.trimStart
  rw [← split] at count
  have := pieces_blanks_append blanks (count ▸ even)
  rw [← split] at this
  rw [tokenize_eq_pieces_trimStart, this]

/-- Texts on both sides of a gap are cut independently as soon as the second one is balanced. -/
theorem tokenize_append_gap (a : Text) {w b : Text} (gap : w ≠ []) (blanks : Blanks w)
    (even : quoteCount b % 2 = 0) : tokenize (a ++ w ++ b) = tokenize a ++ tokenize b := by
  by_cases light : Blanks a
  · have lead : Blanks (a ++ w) := blanks_append.mpr ⟨light, blanks⟩
    rw [tokenize_eq_pieces_trimStart (a ++ w ++ b), trimStart_blanks_append lead,
      ← tokenize_eq_pieces_trimStart, tokenize_of_blanks light, List.nil_append]
  · rw [tokenize_eq_pieces_trimStart (a ++ w ++ b), List.append_assoc,
      trimStart_append_of_not_blanks light, ← List.append_assoc,
      pieces_append_gap _ gap blanks even, ← tokenize_eq_pieces_trimStart, tokenize_of_even even]

/-- Every blank of `token` has an odd number of quotes behind it when `rest` follows the token. -/
def Solid (token rest : Text) : Prop :=
  ∀ before c after, token = before ++ c :: after → isBlank c = true →
    quoteCount (after ++ rest) % 2 = 1

/-- Every character of `gap` is a blank with an even number of quotes behind it. -/
def Parting (gap rest : Text) : Prop :=
  ∀ before c after, gap = before ++ c :: after →
    isBlank c = true ∧ quoteCount (after ++ rest) % 2 = 0

/-- `Layout tokens gaps t`: the text `t` is the first token, the first gap, the second token and so on up
    to the last token, solid tokens parted by gaps. -/
inductive Layout : List Text → List Text → Text → Prop where
  | last {token : Text} (some : token ≠ []) (solid : Solid token []) : Layout [token] [] token
  | more {token gap rest : Text} {tokens gaps : List Text} (some : token ≠ [])
      (solid : Solid token (gap ++ rest)) (apart : gap ≠ []) (parting : Parting gap rest)
      (tail : Layout tokens gaps rest) :
      Layout (token :: tokens) (gap :: gaps) (token ++ gap ++ rest)

theorem solid_nil (rest : Text) : Solid [] rest := by
  intro before c after split
  simp at split

theorem solid_cons {c : Char} {t rest : Text} :
    Solid (c :: t) rest ↔
      (isBlank c = true → quoteCount (t ++ rest) % 2 = 1) ∧ Solid t rest := by
  constructor
  · intro solid
    refine ⟨solid [] c t rfl, ?_⟩
    intro before d after split
    exact solid (c :: before) d after (by rw [split, List.cons_append])
  · intro solid before d after split
    rcases solid with ⟨head,tail⟩
    cases before with
    | nil =>
      obtain ⟨rfl, rfl⟩ := List.cons.inj split
      exact head
    | cons e before => exact tail before d after (List.cons.inj split).2

theorem solid_cons_dark {c : Char} (dark : isBlank c = false) {t rest : Text} :
    Solid (c :: t) rest ↔ Solid t rest := by
  rw [solid_cons, and_iff_right]
  intro blank
  rw [dark] at blank
  cases blank

theorem solid_append {a b rest : Text} :
    Solid (a ++ b) rest ↔ Solid a (b ++ rest) ∧ Solid b rest := by
  induction a with
  | nil => simp [solid_nil]
  | cons c a ih => rw [List.cons_append, solid_cons, ih, solid_cons, List.append_assoc, and_assoc]

theorem solid_congr {t rest other : Text} (same : quoteCount rest % 2 = quoteCount other % 2) :
    Solid t rest ↔ Solid t other := by
  have parity (after : Text) :
      quoteCount (after ++ rest) % 2 = quoteCount (after ++ other) % 2 := by
    rw [quoteCount_append, quoteCount_append]
    omega
  simp only [Solid, parity]

theorem solid_of_no_blank {t : Text} (dark : ∀ c ∈ t, isBlank c = false) (rest : Text) :
    Solid t rest := by
  intro before c after split blank
  have := dark c (by rw [split]; simp)
  simp [blank] at this

theorem solid_iff_of_even {t rest : Text} (even : quoteCount rest % 2 = 0) :
    Solid t rest ↔ Solid t [] :=
  solid_congr (even.trans rfl)

theorem parting_of_blanks {gap rest : Text} (blanks : Blanks gap)
    (even : quoteCount rest % 2 = 0) : Parting gap rest := by
  intro before c after split
  have tail : Blanks after := fun d hd => blanks d (by rw [split]; simp [hd])
  refine ⟨blanks c (by rw [split]; simp), ?_⟩
  rw [quoteCount_blanks_append tail, even]

theorem parting_blanks {gap rest : Text} (parting : Parting gap rest) : Blanks gap := by
  intro c member
  obtain ⟨before, after, split⟩ := List.append_of_mem member
  exact (parting before c after split).1

theorem parting_even {gap rest : Text} (apart : gap ≠ []) (parting : Parting gap rest) :
    quoteCount rest % 2 = 0 := by
  obtain ⟨c, tail, rfl⟩ := List.exists_cons_of_ne_nil apart
  have even := (parting [] c tail rfl).2
  have blanks : Blanks tail :=
    fun d hd => parting_blanks parting d (List.mem_cons_of_mem c hd)
  rwa [quoteCount_blanks_append blanks] at even

theorem rawPieces_of_solid {t : Text} (solid : Solid t []) : rawPieces t = [t] := by
  induction t with
  | nil => rfl
  | cons c rest ih =>
    obtain ⟨head, tail⟩ := solid_cons.mp solid
    rw [List.append_nil] at head
    have kept : ¬ (isBlank c = true ∧ quoteCount rest % 2 = 0) := by
      intro separates
      have odd := head separates.1
      have even := separates.2
      omega
    have whole := ih tail
    simp only [rawPieces, List.cons.injEq] at whole
    rw [rawPieces_cons_kept kept, whole.1, whole.2]

theorem pieces_of_solid {t : Text} (some : t ≠ []) (solid : Solid t []) : pieces t = [t] := by
  simp [pieces, rawPieces_of_solid solid, some]

theorem eq_of_mem_pieces {t piece : Text} (solid : Solid t []) (member : piece ∈ pieces t) :
    piece = t := by
  rw [pieces, rawPieces_of_solid solid, List.mem_filter, List.mem_singleton] at member
  exact member.1

theorem first_cut (t : Text) :
    Solid t [] ∨ ∃ first c rest, t = first ++ c :: rest ∧ isBlank c = true ∧
      quoteCount rest % 2 = 0 ∧ Solid first (c :: rest) := by
  induction t with
  | nil => exact Or.inl (solid_nil [])
  | cons d tail ih =>
    by_cases separates : isBlank d = true ∧ quoteCount tail % 2 = 0
    · exact Or.inr ⟨[], d, tail, rfl, separates.1, separates.2, solid_nil _⟩
    · have head : isBlank d = true → quoteCount tail % 2 = 1 := by
        intro blank
        rcases Nat.mod_two_eq_zero_or_one (quoteCount tail) with even | odd
        · exact absurd ⟨blank, even⟩ separates
        · exact odd
      rcases ih with whole | ⟨first, c, rest, split, blank, even, solid⟩
      · exact Or.inl (solid_cons.mpr ⟨by simpa using head, whole⟩)
      · refine Or.inr ⟨d :: first, c, rest, by rw [split, List.cons_append], blank, even, ?_⟩
        exact solid_cons.mpr ⟨by rwa [← split], solid⟩

theorem first_gap {t : Text} (finish : EndsDark t) :
    Solid t [] ∨ ∃ first gap rest, t = first ++ gap ++ rest ∧ gap ≠ [] ∧ Blanks gap ∧
      quoteCount rest % 2 = 0 ∧ Solid first (gap ++ rest) ∧ rest ≠ [] ∧ StartsDark rest := by
  rcases first_cut t with whole | ⟨first, c, tail, split, blank, even, solid⟩
  · exact Or.inl whole
  · obtain ⟨lead, blanks, tailSplit⟩ := trimStart_split tail
    have gapBlanks : Blanks (c :: lead) := by
      intro d member
      rcases List.mem_cons.mp member with same | inLead
      · rw [same]
        exact blank
      · exact blanks d inLead
    have restSome : Text.trimStart tail ≠ [] := by
      intro empty
      rw [empty, List.append_nil] at tailSplit
      rw [split, endsDark_append first (List.cons_ne_nil c tail), tailSplit] at finish
      exact not_blanks_of_endsDark (List.cons_ne_nil c lead) finish gapBlanks
    refine Or.inr ⟨first, c :: lead, Text.trimStart tail, ?_, List.cons_ne_nil c lead, gapBlanks,
      ?_, ?_, restSome, trimStart_startsDark tail⟩
    · rw [List.append_assoc, List.cons_append, ← tailSplit, split]
    · rw [tailSplit, quoteCount_blanks_append blanks] at even
      exact even
    · rwa [List.cons_append, ← tailSplit]

/-- A text that neither starts nor ends with a blank is laid out by its pieces. The induction is on the
    length, since a whole gap is passed at once. -/
theorem layout_pieces (t : Text) (some : t ≠ []) (start : StartsDark t) (finish : EndsDark t) :
    ∃ gaps, Layout (pieces t) gaps t := by
  induction size : t.length using Nat.strongRecOn generalizing t with
  | ind n ih =>
    rcases first_gap finish with
      whole | ⟨first, gap, rest, split, apart, blanks, even, solid, restSome, restStart⟩
    · exact ⟨[], by rw [pieces_of_solid some whole]; exact Layout.last some whole⟩
    · subst split
      have firstSome : first ≠ [] := by
        rintro rfl
        obtain ⟨c, tail, rfl⟩ := List.exists_cons_of_ne_nil apart
        have dark := start c rfl
        simp [blanks c List.mem_cons_self] at dark
      have shorter : rest.length < n := by
        have := List.length_pos_iff.mpr apart
        simp only [List.length_append] at size
        omega
      have restFinish := (endsDark_append (first ++ gap) restSome).mp finish
      obtain ⟨gaps, layout⟩ := ih _ shorter rest restSome restStart restFinish rfl
      have gapEven : quoteCount (gap ++ rest) % 2 = 0 := by
        rw [quoteCount_blanks_append blanks, even]
      refine ⟨gap :: gaps, ?_⟩
      rw [pieces_append_gap first apart blanks even,
        pieces_of_solid firstSome ((solid_iff_of_even gapEven).mp solid)]
      exact Layout.more firstSome solid apart (parting_of_blanks blanks even) layout

theorem pieces_of_layout {tokens gaps : List Text} {t : Text} (layout : Layout tokens gaps t) :
    pieces t = tokens := by
  induction layout with
  | last some solid => exact pieces_of_solid some solid
  | @more token gap rest tokens gaps some solid apart parting tail ih =>
    have even := parting_even apart parting
    have blanks := parting_blanks parting
    have gapEven : quoteCount (gap ++ rest) % 2 = 0 := by
      rw [quoteCount_blanks_append blanks, even]
    rw [pieces_append_gap token apart blanks even, ih,
      pieces_of_solid some ((solid_iff_of_even gapEven).mp solid), List.singleton_append]

theorem quoteCount_join {ts : List Text} (even : ∀ t ∈ ts, quoteCount t % 2 = 0) :
    quoteCount (join [' '] ts) % 2 = 0 := by
  induction ts with
  | nil => rfl
  | cons first rest ih =>
    have firstEven := even first List.mem_cons_self
    have restEven := ih fun t member => even t (List.mem_cons_of_mem first member)
    cases rest with
    | nil => exact firstEven
    | cons second more =>
      rw [join_cons_cons, quoteCount_append, quoteCount_append,
        quoteCount_blanks (show Blanks [' '] by decide)]
      omega

theorem pieces_join {first : Text} {rest : List Text}
    (solid : ∀ t ∈ first :: rest, t ≠ [] ∧ Solid t []) (even : ∀ t ∈ rest, quoteCount t % 2 = 0) :
    pieces (join [' '] (first :: rest)) = first :: rest := by
  induction rest generalizing first with
  | nil =>
    obtain ⟨some, whole⟩ := solid first List.mem_cons_self
    exact pieces_of_solid some whole
  | cons second more ih =>
    obtain ⟨some, whole⟩ := solid first List.mem_cons_self
    have tail : pieces (join [' '] (second :: more)) = second :: more :=
      ih (fun t member => solid t (List.mem_cons_of_mem first member))
        fun t member => even t (List.mem_cons_of_mem second member)
    rw [join_cons_cons,
      pieces_append_gap first (List.cons_ne_nil ' ' []) (by decide) (quoteCount_join even), tail,
      pieces_of_solid some whole, List.singleton_append]

/-- Tokens joined by single blanks are found again. Only the first one may hold an odd number of quotes,
    and only the first one has to be kept from starting with a blank: in the others such a blank would
    separate. -/
theorem tokenize_join {first : Text} {rest : List Text} (start : StartsDark first)
    (solid : ∀ t ∈ first :: rest, t ≠ [] ∧ Solid t []) (even : ∀ t ∈ rest, quoteCount t % 2 = 0) :
    tokenize (join [' '] (first :: rest)) = first :: rest := by
  have some := (solid first List.mem_cons_self).1
  have joinStart : StartsDark (join [' '] (first :: rest)) := by
    cases rest with
    | nil => exact start
    | cons second more =>
      rw [join_cons_cons, List.append_assoc]
      exact (startsDark_append some _).mpr start
  rw [tokenize_eq_pieces_trimStart, trimStart_of_startsDark joinStart, pieces_join solid even]

theorem layout_tokens_ne_nil {tokens gaps : List Text} {t : Text}
    (layout : Layout tokens gaps t) : tokens ≠ [] := by
  cases layout <;> simp

/-- The tokens of a search text are what its trimmed form is laid out by: nothing but gaps is lost, and
    no other tokens would do. -/
theorem tokenize_layout (raw : Text) :
    (tokenize raw = [] ↔ raw.trim = []) ∧
      (raw.trim ≠ [] → ∃ gaps, Layout (tokenize raw) gaps raw.trim) ∧
      ∀ tokens gaps, Layout tokens gaps raw.trim → tokens = tokenize raw := by
  have laid : raw.trim ≠ [] → ∃ gaps, Layout (tokenize raw) gaps raw.trim := fun some =>
    layout_pieces raw.trim some (trim_startsDark raw) (trim_endsDark raw)
  refine ⟨⟨?_, ?_⟩, laid, fun tokens gaps layout => (pieces_of_layout layout).symm⟩
  · intro none
    by_contra some
    obtain ⟨gaps, layout⟩ := laid some
    exact layout_tokens_ne_nil layout none
  · intro empty
    rw [tokenize_eq_pieces_trim, empty]
    rfl

end SearchBox.Token
