import SearchBox.Proofs.QuotedParts

/- Which lists of tokens come out of cutting a search text, and which text they can be cut from again. A quote
   without a partner can only be in the first token, and then it protects the blanks before it there. -/
namespace SearchBox.Token
open Text

/-- Tokens as cutting leaves them: none is empty or has a blank at an end, every blank in one has an odd number
    of quotes behind it there, and only the first may hold an odd number of quotes. -/
structure Separable (tokens : List Text) : Prop where
  nonempty : ∀ t ∈ tokens, t ≠ []
  start : ∀ t ∈ tokens, StartsDark t
  finish : ∀ t ∈ tokens, EndsDark t
  solid : ∀ t ∈ tokens, Solid t []
  balanced : ∀ t ∈ tokens.tail, quoteCount t % 2 = 0

section Token
variable {t : Text}

theorem endsDark_of_solid (solid : Solid t []) : EndsDark t := by
  intro c last
  obtain ⟨before, rfl⟩ := List.getLast?_eq_some_iff.mp last
  by_contra light
  have odd := solid before c [] rfl (by simpa using light)
  exact absurd odd (by decide)

theorem startsDark_of_solid (solid : Solid t []) (even : quoteCount t % 2 = 0) : StartsDark t := by
  intro c head
  obtain ⟨rest, rfl⟩ := List.head?_eq_some_iff.mp head
  by_contra light
  have blank : isBlank c = true := by simpa using light
  have odd := solid [] c rest rfl blank
  rw [List.append_nil] at odd
  rw [quoteCount_cons_blank blank] at even
  omega

end Token

theorem layout_nonempty {tokens gaps : List Text} {t : Text} (layout : Layout tokens gaps t) :
    ∀ token ∈ tokens, token ≠ [] := by
  induction layout with
  | last some solid => simpa using some
  | more some solid apart parting tail ih => exact List.forall_mem_cons.mpr ⟨some, ih⟩

theorem layout_startsDark {tokens gaps : List Text} {t : Text} (layout : Layout tokens gaps t)
    (start : StartsDark t) : ∀ token ∈ tokens, StartsDark token := by
  obtain ⟨first, others, rfl, _, balanced⟩ := layout_balanced layout
  have nonempty := layout_nonempty layout first List.mem_cons_self
  refine List.forall_mem_cons.mpr ⟨?_, fun token member => ?_⟩
  · obtain ⟨head, more, rest, same, rfl, _⟩ := behind_of_layout layout
    obtain ⟨rfl, rfl⟩ := List.cons.inj same
    exact (startsDark_append nonempty rest).mp start
  · -- later tokens need no beginning of the text: their quotes are in pairs
    have solid := layout_solid layout token (List.mem_cons_of_mem first member)
    exact startsDark_of_solid solid (balanced token member)

theorem separable_of_layout {tokens gaps : List Text} {t : Text} (layout : Layout tokens gaps t)
    (start : StartsDark t) : Separable tokens where
  nonempty := layout_nonempty layout
  start := layout_startsDark layout start
  finish := fun token member => endsDark_of_solid (layout_solid layout token member)
  solid := layout_solid layout
  balanced := by
    obtain ⟨first, others, rfl, _, balanced⟩ := layout_balanced layout
    exact balanced

theorem separable_tokenize (raw : Text) : Separable (tokenize raw) := by
  by_cases empty : raw.trim = []
  · rw [tokenize_eq_pieces_trim, empty]
    constructor <;> simp [pieces, rawPieces, cut]
  · obtain ⟨gaps, layout⟩ := layout_pieces raw.trim empty (trim_startsDark raw) (trim_endsDark raw)
    exact separable_of_layout layout (trim_startsDark raw)

theorem tokenize_join_separable {tokens : List Text} (separable : Separable tokens) :
    tokenize (join [' '] tokens) = tokens := by
  cases tokens with
  | nil => rfl
  | cons first rest =>
    refine tokenize_join (separable.start first List.mem_cons_self) ?_ separable.balanced
    exact fun t member => ⟨separable.nonempty t member, separable.solid t member⟩

/-- The lists of tokens are the separable ones, and each is cut from its tokens joined by single blanks. So the
    tokens of a text, joined, are cut into themselves. -/
theorem tokenize_image (tokens : List Text) :
    ((∃ raw, tokenize raw = tokens) ↔ Separable tokens) ∧
      (Separable tokens → tokenize (join [' '] tokens) = tokens) ∧
      ∀ raw, tokenize (join [' '] (tokenize raw)) = tokenize raw := by
  refine ⟨⟨?_, ?_⟩, tokenize_join_separable, ?_⟩
  · rintro ⟨raw, rfl⟩
    exact separable_tokenize raw
  · intro separable
    exact ⟨join [' '] tokens, tokenize_join_separable separable⟩
  · intro raw
    exact tokenize_join_separable (separable_tokenize raw)

theorem tokenize_image_unbalanced :
    let tokens := ["a b\"".toList, "\"c d\"".toList]
    Separable tokens ∧ tokenize (join [' '] tokens) = tokens := by
  intro tokens
  have laws := tokenize_image tokens
  have separable := laws.1.mp ⟨"a b\"\t \"c d\"\n".toList, by decide⟩
  exact ⟨separable, laws.2.1 separable⟩

end SearchBox.Token
