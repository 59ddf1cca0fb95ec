import SearchBox.Proofs.RecordedWork
import SearchBox.Proofs.TermGrammar
import SearchBox.Proofs.TokenLayout

/- Search texts one behind the other. With a gap between them and a balanced second text, they are compiled
   and applied one after the other. An unbalanced second text would turn the cuts of the first around. -/
namespace SearchBox
open Text Token

theorem compile_tokens (raw : Text) (map : ColumnMap) :
    compile (some raw) map =
      (SearchTerm.parseAll map (tokenize raw)).map SearchTerm.classify := rfl

theorem compile_append_gap (map : ColumnMap) (a : Text) {w b : Text} (gap : w ≠ [])
    (blanks : Blanks w) (even : quoteCount b % 2 = 0) :
    compile (some (a ++ w ++ b)) map = compile (some a) map ++ compile (some b) map := by
  simp only [compile_tokens]
  rw [tokenize_append_gap a gap blanks even, SearchTerm.parseAll_append, List.map_append]

theorem compile_of_ignored {map : ColumnMap} {token : Text}
    (dark : ∀ c ∈ token, isBlank c = false) (even : quoteCount token % 2 = 0)
    (ignored : SearchTerm.Ignored map token) : compile (some token) map = [] := by
  by_cases empty : token = []
  · rw [empty]
    rfl
  · rw [compile_tokens, tokenize_of_even even,
      pieces_of_solid empty (solid_of_no_blank dark [])]
    simp [SearchTerm.parseAll, SearchTerm.parse?_of_ignored ignored]

theorem applyTokens_of_compile_append {map : ColumnMap} {a b whole : Text}
    (compiled : compile (some whole) map = compile (some a) map ++ compile (some b) map)
    (debug : Bool) (q : Query) :
    (q.applyTokens debug map whole).value =
      (q.applyTokens debug map a).value.andThen fun _ next =>
        (next.applyTokens debug map b).value := by
  simp only [Query.applyTokens_value, compiled, Query.filterByAll]
  rw [Query.filterByFrom_append]
  generalize (q.filterByFrom debug 0 (compile (some a) map)).value = first
  obtain ⟨reached, result⟩ := first
  cases result with
  | error fault => rfl
  | ok count => exact Query.filterByFrom_count debug count 0 reached _ Datum.null

theorem applyTokens_congr {map : ColumnMap} {a b : Text}
    (compiled : compile (some a) map = compile (some b) map) (debug : Bool) (q : Query) :
    (q.applyTokens debug map a).value = (q.applyTokens debug map b).value := by
  rw [Query.applyTokens_value, Query.applyTokens_value, compiled]

theorem quoteCount_balanced {token w b : Text} (tokenEven : quoteCount token % 2 = 0)
    (blanks : Blanks w) (even : quoteCount b % 2 = 0) :
    quoteCount (token ++ w ++ b) % 2 = 0 := by
  rw [quoteCount_append, quoteCount_append, quoteCount_blanks blanks]
  omega

/-- A search followed by a balanced one is the first search and, unless it was refused, the second one on
    the query it leaves. An ignored token before the second one is as good as none. -/
theorem balanced_search_composes (debug : Bool) (map : ColumnMap) (q : Query) (a w b : Text)
    (gap : w ≠ []) (blanks : Blanks w) (even : quoteCount b % 2 = 0) :
    compile (some (a ++ w ++ b)) map = compile (some a) map ++ compile (some b) map ∧
    (q.applySearch debug .tokens map (a ++ w ++ b)).value =
      (q.applySearch debug .tokens map a).value.andThen (fun _ next =>
        (next.applySearch debug .tokens map b).value) ∧
    ∀ token, (∀ c ∈ token, isBlank c = false) → quoteCount token % 2 = 0 →
      SearchTerm.Ignored map token →
        compile (some (token ++ w ++ b)) map = compile (some b) map ∧
        (q.applySearch debug .tokens map (token ++ w ++ b)).value =
          (q.applySearch debug .tokens map b).value ∧
        ∀ v, v ≠ [] → Blanks v →
          compile (some (a ++ v ++ (token ++ w ++ b))) map = compile (some (a ++ v ++ b)) map ∧
          (q.applySearch debug .tokens map (a ++ v ++ (token ++ w ++ b))).value =
            (q.applySearch debug .tokens map (a ++ v ++ b)).value := by
  have whole := compile_append_gap map a gap blanks even
  refine ⟨whole, applyTokens_of_compile_append whole debug q, ?_⟩
  intro token dark tokenEven ignored
  have dropped : compile (some (token ++ w ++ b)) map = compile (some b) map := by
    rw [compile_append_gap map token gap blanks even, compile_of_ignored dark tokenEven ignored,
      List.nil_append]
  refine ⟨dropped, applyTokens_congr dropped debug q, ?_⟩
  intro v vGap vBlanks
  have inserted : compile (some (a ++ v ++ (token ++ w ++ b))) map =
      compile (some (a ++ v ++ b)) map := by
    rw [compile_append_gap map a vGap vBlanks (quoteCount_balanced tokenEven blanks even), dropped,
      compile_append_gap map a vGap vBlanks even]
  exact ⟨inserted, applyTokens_congr inserted debug q⟩

theorem balanced_search_composes_unbalanced :
    let map : ColumnMap := [("n".toList, "name".toList)]
    let a := "n:a b\"".toList
    let b := "|n:\"c d\"".toList
    quoteCount b % 2 = 0 ∧
      compile (some (a ++ " \t".toList ++ b)) map = compile (some a) map ++ compile (some b) map ∧
      compile (some ("x:1".toList ++ " \t".toList ++ b)) map = compile (some b) map := by
  intro map a b
  have composed := balanced_search_composes false map
    (Query.start ⟨"people".toList, [⟨"name".toList, .string⟩]⟩ none) a " \t".toList b (by decide)
    (by decide) (by decide)
  have ignored : SearchTerm.Ignored map "x:1".toList :=
    Or.inr ⟨"x".toList, "1".toList, rfl, by decide, by decide⟩
  have dark : ∀ c ∈ "x:1".toList, isBlank c = false := by simp [isBlank]
  exact ⟨by decide, composed.1, (composed.2.2 "x:1".toList dark (by decide) ignored).1⟩

end SearchBox
