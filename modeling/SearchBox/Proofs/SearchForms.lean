import SearchBox.Proofs.CheckedWork
import SearchBox.Proofs.WrittenForms

/- The loose forms of a search, as one language. Arguments have exactly one form, whatever they are, and the
   form alone says which search they define or why they define none. -/
namespace SearchBox

namespace Definition

def ofName (name : Text) : Definition := .plain (.text name)

def isName : Definition → Bool
  | .plain (.text (_ :: _)) => true
  | _ => false

theorem exists_of_isText {d : Definition} (text : d.isText = true) : ∃ t, d = .plain (.text t) := by
  cases d with
  | plain d =>
    cases d with
    | text t => exact ⟨t, rfl⟩
    | _ => cases text
  | _ => cases text

theorem isName_iff (d : Definition) : d.isName = true ↔ ∃ name, name ≠ [] ∧ d = ofName name := by
  constructor
  · intro named
    unfold isName at named
    split at named
    · rename_i c name
      exact ⟨c :: name, List.cons_ne_nil c name, rfl⟩
    · cases named
  · rintro ⟨name, some, rfl⟩
    obtain ⟨c, rest, rfl⟩ := List.exists_cons_of_ne_nil some
    rfl

theorem forall_isName {items : List Definition} :
    (∀ d ∈ items, d.isName = true) ↔
      ∃ names : List Text, (∀ name ∈ names, name ≠ []) ∧ items = names.map ofName := by
  induction items with
  | nil => exact iff_of_true (by simp) ⟨[], by simp, rfl⟩
  | cons d rest ih =>
    rw [List.forall_mem_cons, isName_iff, ih]
    constructor
    · rintro ⟨⟨name, some, rfl⟩, names, filled, rfl⟩
      exact ⟨name :: names, List.forall_mem_cons.mpr ⟨some, filled⟩, rfl⟩
    · rintro ⟨names, filled, same⟩
      obtain ⟨name, others, rfl, rfl, rfl⟩ := List.map_eq_cons_iff.mp same.symm
      obtain ⟨some, filled⟩ := List.forall_mem_cons.mp filled
      exact ⟨⟨name, some, rfl⟩, others, filled, rfl⟩

/-- Arguments that list something, and what they list: texts as they come, or a single list of anything. -/
inductive Lists : List Definition → List Definition → Prop where
  | texts {items : List Definition} (some : items ≠ []) (all : ∀ d ∈ items, d.isText = true) :
      Lists items items
  | list (items : List Definition) : Lists [.list items] items
  | tuple (items : List Definition) : Lists [.tuple items] items
  | data (items : List Datum) : Lists [.plain (.list items)] (items.map .plain)

theorem Lists.unique {xs items others : List Definition} (lists : Lists xs items)
    (again : Lists xs others) : items = others := by
  cases lists with
  | texts some all =>
    cases again with
    | texts => rfl
    | list | tuple | data => simp [isText, Datum.isText] at all
  | list | tuple | data =>
    cases again with
    | texts _ all => simp [isText, Datum.isText] at all
    | _ => rfl

end Definition

namespace Search
open Definition

inductive Form where
  | nothing
  | search (s : Search)
  | columns (names : List Text)
  | callback (c : Callback)
  | noColumn
  /-- The first thing listed that is no name. -/
  | badColumn (d : Definition)
  | other

namespace Form

def Of (xs : List Definition) : Form → Prop
  | nothing => xs = [] ∨ xs = [.plain .null]
  | search s => xs = [.spec s]
  | columns names => Lists xs (names.map ofName) ∧ names ≠ [] ∧ ∀ name ∈ names, name ≠ []
  | callback c => xs = [.callback c]
  | noColumn => Lists xs []
  | badColumn d => ∃ items, Lists xs items ∧ items.find? (fun item => !item.isName) = some d
  | other =>
    ¬ (xs = [] ∨ xs = [.plain .null]) ∧ (∀ s, xs ≠ [.spec s]) ∧ (∀ items, ¬ Lists xs items) ∧
      ∀ c, xs ≠ [.callback c]

def outcome (xs : List Definition) : Form → Except Fault Search
  | nothing => .ok .tokens
  | search s => .ok s
  | columns names => .ok (.columns names)
  | callback c => .ok (.custom c)
  | noColumn => .error .noListedColumn
  | badColumn d => .error (.showing .invalidListedColumn d.written?)
  | other => .error (.showing .unsupportedDefinition (Definition.tuple xs).written?)

end Form

section Lists
variable {items xs : List Definition}

theorem listedColumn_of_isName {d : Definition} {name : Text} (some : name ≠ []) (named : d = ofName name) :
    listedColumn d = .ok name := by
  obtain ⟨c, rest, rfl⟩ := List.exists_cons_of_ne_nil some
  rw [named]
  rfl

theorem listedColumn_of_not_isName {d : Definition} (other : d.isName = false) :
    listedColumn d = .error (.showing .invalidListedColumn d.written?) := by
  unfold isName at other
  split at other
  · cases other
  · rename_i noName
    exact listedColumn.eq_2 d noName

theorem mapM_listedColumn {names : List Text} (filled : ∀ name ∈ names, name ≠ []) :
    (names.map ofName).mapM listedColumn = .ok names := by
  induction names with
  | nil => rfl
  | cons name rest ih =>
    obtain ⟨some, filled⟩ := List.forall_mem_cons.mp filled
    rw [List.map_cons, List.mapM_cons, listedColumn_of_isName some rfl, ih filled]
    rfl

theorem mapM_listedColumn_error {d : Definition}
    (bad : items.find? (fun item => !item.isName) = some d) :
    items.mapM listedColumn = .error (.showing .invalidListedColumn d.written?) := by
  induction items with
  | nil => cases bad
  | cons item rest ih =>
    rw [List.mapM_cons]
    cases named : item.isName with
    | false =>
      rw [List.find?_cons_of_pos (by simp [named])] at bad
      cases bad
      rw [listedColumn_of_not_isName named]
      rfl
    | true =>
      rw [List.find?_cons_of_neg (by simp [named])] at bad
      obtain ⟨name, some, same⟩ := (isName_iff item).mp named
      rw [listedColumn_of_isName some same, ih bad]
      rfl

theorem ofList_names {names : List Text} (some : names ≠ []) (filled : ∀ name ∈ names, name ≠ []) :
    ofList (names.map ofName) = .ok (.columns names) := by
  rw [ofList, if_neg (by simpa using some), mapM_listedColumn filled]
  rfl

theorem ofList_bad {d : Definition} (bad : items.find? (fun item => !item.isName) = some d) :
    ofList items = .error (.showing .invalidListedColumn d.written?) := by
  have some : items ≠ [] := by
    rintro rfl
    cases bad
  rw [ofList, if_neg (by simpa using some), mapM_listedColumn_error bad]
  rfl

theorem ofArguments_of_lists (lists : Lists xs items) : ofArguments xs = ofList items := by
  cases lists with
  | list | tuple | data => rfl
  | texts some all =>
    unfold ofArguments
    split
    case h_1 => exact absurd rfl some
    case h_4 => rfl
    case h_9 single _ _ _ _ =>
      have several : items.length ≠ 1 := by
        intro one
        obtain ⟨d, rfl⟩ := List.length_eq_one_iff.mp one
        obtain ⟨t, rfl⟩ := exists_of_isText (all d List.mem_cons_self)
        exact single t rfl
      have more := List.length_pos_iff.mpr some
      rw [if_pos ⟨by omega, List.all_eq_true.mpr all⟩]
    all_goals simp [isText, Datum.isText] at all

end Lists

namespace Form
variable {xs : List Definition} {form : Form}

theorem exists_of (xs : List Definition) : ∃ form : Form, form.Of xs := by
  by_cases lists : ∃ items, Lists xs items
  · obtain ⟨items, lists⟩ := lists
    cases bad : items.find? (fun item => !item.isName) with
    | some d => exact ⟨.badColumn d, items, lists, bad⟩
    | none =>
      obtain ⟨names, filled, rfl⟩ := forall_isName.mp (by simpa using bad)
      by_cases none : names = []
      · rw [none] at lists
        exact ⟨.noColumn, lists⟩
      · exact ⟨.columns names, lists, none, filled⟩
  · refine Classical.byContradiction fun none => ?_
    exact none ⟨.other, fun of => none ⟨.nothing, of⟩, fun s of => none ⟨.search s, of⟩,
      fun items of => lists ⟨items, of⟩, fun c of => none ⟨.callback c, of⟩⟩

theorem Of.ofArguments (of : form.Of xs) : ofArguments xs = form.outcome xs := by
  cases form with
  | nothing => rcases of with rfl | rfl <;> rfl
  | search s =>
    rw [of]
    rfl
  | columns names =>
    obtain ⟨lists, some, filled⟩ := of
    rw [ofArguments_of_lists lists, ofList_names some filled]
    rfl
  | callback c =>
    rw [of]
    rfl
  | noColumn =>
    rw [ofArguments_of_lists of]
    rfl
  | badColumn d =>
    obtain ⟨items, lists, bad⟩ := of
    rw [ofArguments_of_lists lists, ofList_bad bad]
    rfl
  | other =>
    obtain ⟨something, noSearch, noList, noCallback⟩ := of
    unfold Search.ofArguments
    split
    case h_1 => exact absurd (Or.inl rfl) something
    case h_2 => exact absurd (Or.inr rfl) something
    case h_3 s => exact absurd rfl (noSearch s)
    case h_4 name => exact absurd (.texts (List.cons_ne_nil _ _) (by simp [isText, Datum.isText])) (noList _)
    case h_5 items => exact absurd (.list items) (noList items)
    case h_6 items => exact absurd (.tuple items) (noList items)
    case h_7 items => exact absurd (.data items) (noList _)
    case h_8 c => exact absurd rfl (noCallback c)
    case h_9 =>
      rw [if_neg]
      · rfl
      · rintro ⟨several, texts⟩
        exact noList xs (.texts (List.length_pos_iff.mp (by omega)) (List.all_eq_true.mp texts))

theorem Of.eq_search {s : Search} (of : form.Of [.spec s]) : form = .search s := by
  have noList (items : List Definition) : ¬ Lists [.spec s] items := by
    rintro (⟨_, texts⟩)
    simp [isText] at texts
  cases form with
  | nothing => simp [Of] at of
  | search t =>
    cases of
    rfl
  | columns names => exact absurd of.1 (noList _)
  | callback c => simp [Of] at of
  | noColumn => exact absurd of (noList _)
  | badColumn d =>
    obtain ⟨items, lists, _⟩ := of
    exact absurd lists (noList items)
  | other => exact absurd rfl (of.2.1 s)

theorem Of.eq_badColumn {items : List Definition} {d : Definition} (of : form.Of xs) (lists : Lists xs items)
    (bad : items.find? (fun item => !item.isName) = some d) : form = .badColumn d := by
  have refused := (ofArguments_of_lists lists).trans (ofList_bad bad)
  rw [of.ofArguments] at refused
  cases form with
  | nothing | search | callback => cases refused
  | columns names => cases refused
  | noColumn =>
    rw [lists.unique of] at bad
    cases bad
  | badColumn e =>
    obtain ⟨more, listsMore, badMore⟩ := of
    rw [← lists.unique listsMore, bad] at badMore
    rw [Option.some.inj badMore]
  | other => exact absurd lists (of.2.2.1 items)

theorem Of.unique {again : Form} (of : form.Of xs) (others : again.Of xs) : form = again := by
  have same : form.outcome xs = again.outcome xs := by rw [← of.ofArguments, others.ofArguments]
  cases form with
  | search s =>
    rw [Of] at of
    rw [of] at others
    exact others.eq_search.symm
  | badColumn d =>
    obtain ⟨items, lists, bad⟩ := of
    exact (others.eq_badColumn lists bad).symm
  | other =>
    cases again with
    | noColumn => exact absurd others (of.2.2.1 [])
    | badColumn d =>
      obtain ⟨items, lists, _⟩ := others
      exact absurd lists (of.2.2.1 items)
    | other => rfl
    | _ => cases same
  | _ =>
    cases again with
    | search s =>
      rw [Of] at others
      rw [others] at of
      exact of.eq_search
    | badColumn d =>
      obtain ⟨items, lists, bad⟩ := others
      exact of.eq_badColumn lists bad
    | other =>
      first
        | cases same
        | exact absurd of (others.2.2.1 [])
    | _ => cases same <;> rfl

end Form

/-- Refusals of a value, as opposed to a form that is none of a search. -/
def refusesValue : Fault → Bool
  | .noListedColumn | .invalidListedColumn _ | .unprintableInteger => true
  | _ => false

section Refusals
variable {xs : List Definition}

theorem showing_invalid (written : Option Text) :
    refusesValue (.showing .invalidListedColumn written) = true := by
  cases written <;> rfl

theorem refusesValue_unsupported (d : Definition) :
    refusesValue (.showing .unsupportedDefinition d.written?) = true ↔ ¬ ∀ n ∈ d.integers, Integer.Fits n := by
  rw [← d.written?_isSome]
  cases d.written? <;> simp [Fault.showing, refusesValue]

theorem ofArguments_refusesValue :
    (∃ fault, ofArguments xs = .error fault ∧ refusesValue fault = true) ↔
      (∃ items, Lists xs items ∧ (items = [] ∨ ∃ d ∈ items, d.isName = false)) ∨
        (Form.other.Of xs ∧ ¬ ∀ n ∈ (Definition.tuple xs).integers, Integer.Fits n) := by
  constructor
  · rintro ⟨fault, refused, value⟩
    obtain ⟨form, of⟩ := Form.exists_of xs
    rw [of.ofArguments] at refused
    cases form with
    | noColumn => exact Or.inl ⟨[], of, Or.inl rfl⟩
    | badColumn d =>
      obtain ⟨items, lists, bad⟩ := of
      refine Or.inl ⟨items, lists, Or.inr ⟨d, List.mem_of_find?_eq_some bad, ?_⟩⟩
      simpa using List.find?_some bad
    | other =>
      cases refused
      exact Or.inr ⟨of, (refusesValue_unsupported _).mp value⟩
    | _ => cases refused
  · rintro (⟨items, lists, bad⟩ | ⟨of, long⟩)
    · cases first : items.find? (fun item => !item.isName) with
      | some d =>
        have of : (Form.badColumn d).Of xs := ⟨items, lists, first⟩
        exact ⟨_, of.ofArguments, showing_invalid _⟩
      | none =>
        rcases bad with rfl | ⟨d, member, noName⟩
        · have of : Form.noColumn.Of xs := lists
          exact ⟨_, of.ofArguments, rfl⟩
        · have named := List.find?_eq_none.mp first d member
          simp [noName] at named
    · exact ⟨_, of.ofArguments, (refusesValue_unsupported _).mpr long⟩

theorem ofArguments_unsupported :
    (∃ shown, ofArguments xs = .error (.unsupportedDefinition shown)) ↔
      Form.other.Of xs ∧ ∀ n ∈ (Definition.tuple xs).integers, Integer.Fits n := by
  rw [← (Definition.tuple xs).written?_isSome]
  constructor
  · rintro ⟨shown, refused⟩
    obtain ⟨form, of⟩ := Form.exists_of xs
    rw [of.ofArguments] at refused
    cases form with
    | badColumn d => rcases Fault.showing_eq (Except.error.inj refused) with ⟨_, _, same⟩ | ⟨_, same⟩ <;> cases same
    | other =>
      rcases Fault.showing_eq (Except.error.inj refused) with ⟨t, written, _⟩ | ⟨_, same⟩
      · exact ⟨of, by rw [written]; rfl⟩
      · cases same
    | _ => cases refused
  · rintro ⟨of, short⟩
    obtain ⟨t, written⟩ := Option.isSome_iff_exists.mp short
    exact ⟨t, by rw [of.ofArguments, Form.outcome, written]; rfl⟩

end Refusals

theorem lists_names {names : List Text} (some : names ≠ []) :
    Lists (names.map ofName) (names.map ofName) := by
  refine .texts (by simpa using some) ?_
  intro d member
  obtain ⟨name, _, rfl⟩ := List.mem_map.mp member
  rfl

/-- Arguments have exactly one form, and what comes of them is what comes of the form. They are refused for
    a value if they list nothing or something that is no name, and for their form if they have no other; but
    if a number in them is too long for the refusal of their form to show it, the refusal is one of a value.
    Columns may be listed as separate arguments or as one list of either kind, and a search that came of
    arguments comes of itself again. -/
theorem ofArguments_forms (xs : List Definition) :
    (∃ form : Form, form.Of xs ∧ (∀ again : Form, again.Of xs → again = form) ∧
        ofArguments xs = form.outcome xs) ∧
      ((∃ fault, ofArguments xs = .error fault ∧ refusesValue fault = true) ↔
        (∃ items, Lists xs items ∧ (items = [] ∨ ∃ d ∈ items, d.isName = false)) ∨
          (Form.other.Of xs ∧ ¬ ∀ n ∈ (Definition.tuple xs).integers, Integer.Fits n)) ∧
      ((∃ shown, ofArguments xs = .error (.unsupportedDefinition shown)) ↔
        Form.other.Of xs ∧ ∀ n ∈ (Definition.tuple xs).integers, Integer.Fits n) ∧
      (∀ names : List Text, names ≠ [] →
        let spread := ofArguments (names.map ofName)
        spread = ofArguments [.list (names.map ofName)] ∧
          spread = ofArguments [.tuple (names.map ofName)]) ∧
      ∀ s, ofArguments xs = .ok s → ofArguments [.spec s] = .ok s := by
  refine ⟨?_, ofArguments_refusesValue, ofArguments_unsupported, ?_, fun _ _ => rfl⟩
  · obtain ⟨form, of⟩ := Form.exists_of xs
    exact ⟨form, of, fun again others => others.unique of, of.ofArguments⟩
  · intro names some spread
    have listed : spread = ofList (names.map ofName) := ofArguments_of_lists (lists_names some)
    rw [listed]
    exact ⟨rfl, rfl⟩

theorem other_int (n : Int) : Form.other.Of [.plain (.int n)] := by
  refine ⟨by simp, by simp, ?_, by simp⟩
  rintro items (⟨_, texts⟩)
  simp [isText, Datum.isText] at texts

/-- A number of 5001 digits is no search, but its refusal is not the one of a form. -/
theorem ofArguments_long :
    ¬ (Form.other.Of [.plain (.int (10 ^ 5000))] →
      ∃ shown, ofArguments [.plain (.int (10 ^ 5000))] = .error (.unsupportedDefinition shown)) := by
  intro shows
  obtain ⟨_, short⟩ := ofArguments_unsupported.mp (shows (other_int _))
  have long : Integer.digitLimit ≤ 5000 := by decide
  exact Integer.not_fits_pow long (short _ (List.mem_append_left [] List.mem_cons_self))

example :
    ofArguments [.tuple [ofName "name".toList, .plain (.bool true), ofName []]] =
      .error (.invalidListedColumn "True".toList) := rfl

end Search
end SearchBox
