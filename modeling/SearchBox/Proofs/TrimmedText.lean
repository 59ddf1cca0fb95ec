import Mathlib.Data.List.TakeWhile
import SearchBox.Datum

/- What trimming takes away and what it leaves. The part taken away is made of blanks, and what is left
   neither starts nor ends with one. -/
namespace SearchBox

namespace Text

def Blanks (t : Text) : Prop := ∀ c ∈ t, isBlank c = true

instance (t : Text) : Decidable (Blanks t) :=
  List.decidableBAll (fun c => isBlank c = true) t

theorem blanks_append {a b : Text} : Blanks (a ++ b) ↔ Blanks a ∧ Blanks b := by
  simp only [Blanks, List.mem_append]
  constructor
  · intro h
    exact ⟨fun c hc => h c (Or.inl hc), fun c hc => h c (Or.inr hc)⟩
  · intro h c member
    rcases member with hc | hc
    · exact h.1 c hc
    · exact h.2 c hc

def StartsDark (t : Text) : Prop := ∀ c, t.head? = some c → isBlank c = false

def EndsDark (t : Text) : Prop := ∀ c, t.getLast? = some c → isBlank c = false

theorem startsDark_append {a : Text} (some : a ≠ []) (b : Text) :
    StartsDark (a ++ b) ↔ StartsDark a := by
  obtain ⟨c, rest, rfl⟩ := List.exists_cons_of_ne_nil some
  rfl

theorem endsDark_append (a : Text) {b : Text} (some : b ≠ []) :
    EndsDark (a ++ b) ↔ EndsDark b := by
  obtain ⟨c, rest, rfl⟩ := List.exists_cons_of_ne_nil some
  simp [EndsDark, List.getLast?_append, List.getLast?_cons]

theorem not_blanks_of_endsDark {t : Text} (some : t ≠ []) (finish : EndsDark t) : ¬ Blanks t := by
  intro blanks
  have light := blanks (t.getLast some) (List.getLast_mem some)
  have dark := finish (t.getLast some) (List.getLast?_eq_some_getLast some)
  rw [light] at dark
  exact absurd dark (by decide)

theorem trimStart_split (t : Text) : ∃ lead, Blanks lead ∧ t = lead ++ trimStart t :=
  ⟨t.takeWhile isBlank, fun _ hc => List.mem_takeWhile_imp hc,
    (List.takeWhile_append_dropWhile (p := isBlank)).symm⟩

theorem trimEnd_split (t : Text) : ∃ trail, Blanks trail ∧ t = trimEnd t ++ trail := by
  obtain ⟨lead, blanks, split⟩ := trimStart_split t.reverse
  refine ⟨lead.reverse, fun c hc => blanks c (List.mem_reverse.mp hc), ?_⟩
  have := congrArg List.reverse split
  simpa [trimEnd, trimStart] using this

theorem trimStart_startsDark (t : Text) : StartsDark (trimStart t) := by
  intro c head
  have := List.head?_dropWhile_not isBlank t
  simp only [trimStart] at head
  simpa [head] using this

theorem trimEnd_endsDark (t : Text) : EndsDark (trimEnd t) := by
  intro c last
  simp only [trimEnd, List.getLast?_reverse] at last
  exact trimStart_startsDark t.reverse c last

theorem trimStart_blanks_append {lead : Text} (blanks : Blanks lead) (t : Text) :
    trimStart (lead ++ t) = trimStart t :=
  List.dropWhile_append_of_pos blanks

theorem trimStart_of_startsDark {t : Text} (dark : StartsDark t) : trimStart t = t := by
  cases t with
  | nil => rfl
  | cons c rest => simp [trimStart, dark c rfl]

theorem trim_startsDark (t : Text) : StartsDark (trim t) := by
  intro c head
  obtain ⟨trail, _, split⟩ := trimEnd_split (trimStart t)
  refine trimStart_startsDark t c ?_
  rw [split]
  simp only [trim] at head
  simp [List.head?_append, head]

theorem trim_endsDark (t : Text) : EndsDark (trim t) := trimEnd_endsDark (trimStart t)

theorem trimStart_eq_nil {t : Text} : trimStart t = [] ↔ Blanks t := by
  simp [trimStart, Blanks, List.dropWhile_eq_nil_iff]

theorem trimStart_append_of_not_blanks {a : Text} (dark : ¬ Blanks a) (b : Text) :
    trimStart (a ++ b) = trimStart a ++ b := by
  have rest := mt trimStart_eq_nil.mp dark
  simp only [trimStart] at rest ⊢
  rw [List.dropWhile_append, if_neg (by simpa using rest)]

theorem startsDark_reverse {t : Text} : StartsDark t.reverse ↔ EndsDark t := by
  simp only [StartsDark, EndsDark, List.head?_reverse]

theorem trimStart_append_dark (a : Text) {t : Text} (start : StartsDark t) :
    trimStart (a ++ t) = trimStart a ++ t := by
  by_cases light : Blanks a
  · rw [trimStart_blanks_append light, trimStart_of_startsDark start, trimStart_eq_nil.mpr light,
      List.nil_append]
  · exact trimStart_append_of_not_blanks light t

theorem trimEnd_dark_append {t : Text} (finish : EndsDark t) (b : Text) :
    trimEnd (t ++ b) = t ++ trimEnd b := by
  have mirrored := trimStart_append_dark b.reverse (startsDark_reverse.mpr finish)
  simp only [trimStart] at mirrored
  rw [trimEnd, List.reverse_append, mirrored, List.reverse_append, List.reverse_reverse, trimEnd]

theorem trim_around_dark {t : Text} (some : t ≠ []) (start : StartsDark t) (finish : EndsDark t)
    (a b : Text) : trim (a ++ t ++ b) = trimStart a ++ t ++ trimEnd b := by
  have both : StartsDark (t ++ b) := (startsDark_append some b).mpr start
  have front : trimStart (a ++ (t ++ b)) = trimStart a ++ t ++ b := by
    rw [trimStart_append_dark a both, List.append_assoc]
  have ending : EndsDark (trimStart a ++ t) := (endsDark_append _ some).mpr finish
  rw [trim, List.append_assoc, front, trimEnd_dark_append ending]

theorem trim_trim (t : Text) : trim (trim t) = trim t := by
  by_cases blank : trim t = []
  · rw [blank]
    rfl
  · have around := trim_around_dark blank (trim_startsDark t) (trim_endsDark t) [] []
    rwa [List.nil_append, List.append_nil, trimStart_of_startsDark (by simp [StartsDark]),
      List.nil_append, trimEnd, List.reverse_nil, List.dropWhile_nil, List.reverse_nil,
      List.append_nil] at around

theorem trim_eq_nil {t : Text} : trim t = [] ↔ Blanks t := by
  constructor
  · intro empty
    obtain ⟨trail, light, split⟩ := trimEnd_split (trimStart t)
    have rest : trimStart t = trail := by
      rw [split, ← trim, empty, List.nil_append]
    have dark := trimStart_startsDark t
    rw [rest] at dark
    cases trail with
    | nil => exact trimStart_eq_nil.mp rest
    | cons c more => exact absurd (light c List.mem_cons_self) (by rw [dark c rfl]; decide)
  · intro light
    rw [trim, trimStart_eq_nil.mpr light]
    rfl

def Trimmed (t : Text) : Prop := t ≠ [] ∧ t.trim = t

theorem trimmed_trim {t : Text} (dark : ¬ Blanks t) : t.trim.Trimmed :=
  ⟨mt trim_eq_nil.mp dark, trim_trim t⟩

theorem Trimmed.startsDark {t : Text} (trimmed : t.Trimmed) : StartsDark t := by
  rw [← trimmed.2]
  exact trim_startsDark t

end Text

namespace Datum
open Text
variable {d : Datum}

theorem nonBlank?_eq_some {s : Text} :
    d.nonBlank? = some s ↔ ∃ t, d = .text t ∧ ¬ Blanks t ∧ t.trim = s := by
  cases d with
  | text t => simp [nonBlank?, trim_eq_nil]
  | _ => simp [nonBlank?]

theorem nonBlank?_eq_none : d.nonBlank? = none ↔ ∀ t, d = .text t → Blanks t := by
  cases d with
  | text t => simp [nonBlank?, trim_eq_nil]
  | _ => simp [nonBlank?]

theorem nonBlank?_trimmed {t : Text} (text : d.nonBlank? = some t) : t.Trimmed := by
  obtain ⟨given, rfl, dark, rfl⟩ := nonBlank?_eq_some.mp text
  exact trimmed_trim dark

end Datum
end SearchBox
