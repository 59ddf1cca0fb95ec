import SearchBox.Proofs.CheckedWork
import SearchBox.Proofs.TrimmedText
import SearchBox.Settings.Configuration

/- The search key that follows from a configuration. Whatever the configuration says, and whatever is in the file
   that is read if none is given, there is a key: the first text that has something in it is taken, and the
   standard is the last one that is asked. Only a home directory in front of the path of the file can fail. -/
namespace SearchBox
open Text

namespace Location

def AtHome (l : Location) : Prop := l.root = [] ∧ ∃ user rest, l.parts = ('~' :: user) :: rest

variable {l : Location} {env : Environment}

theorem expandHome_away (away : ¬ l.AtHome) : l.expandHome env = .ok l := by
  unfold expandHome
  split
  · rename_i user rest root parts
    exact absurd ⟨root, user, rest, parts⟩ away
  · rfl

theorem expandHome_error {fault : Fault} (refused : l.expandHome env = .error fault) :
    fault = .noHomeDirectory := by
  unfold expandHome at refused
  split at refused
  · split at refused
    · cases refused
      rfl
    · rename_i home _
      dsimp only at refused
      generalize (if dropSlashes home = [] then ['/'] else dropSlashes home) = start at refused
      split at refused
      · cases refused
        rfl
      · cases refused
  · cases refused

end Location

theorem SearchKey.make_text {t : Text} (dark : ¬ Blanks t) : make (.text t) = .ok ⟨t.trim⟩ := by
  rw [make, Datum.nonBlank?_eq_some.mpr ⟨t, rfl, dark, rfl⟩]

namespace Configuration

/-- The first of some values that is a text with something in it. -/
def FirstText (values : List (Option Datum)) (t : Text) : Prop :=
  ∃ before after, values = before ++ some (.text t) :: after ∧ ¬ Blanks t ∧
    ∀ u, some (.text u) ∈ before → Blanks u

def candidates (env : Environment) (fields : Assoc Datum) : List (Option Datum) :=
  [fields.find? "search_key".toList, (env.find? "QUICKSEARCH_SEARCH_KEY".toList).map .text,
    some (.text SearchKey.standard.text)]

/-- The path that the environment has for the file begins with a home directory. A point in front is no part
    of a path, so it does not keep the tilde from standing for one. -/
def FromHome (env : Environment) : Prop :=
  ∃ t, env.find? "QUICKSEARCH_CONFIG".toList = some t ∧ (Location.ofText t.trim).AtHome

def place (env : Environment) : Place :=
  match (env.find? "QUICKSEARCH_CONFIG".toList).bind trimmed? with
  | none => .own standardLocation
  | some t => .elsewhere (.ofText t)

def Holds (file : FileContent) (fields : Assoc Datum) : Prop :=
  ∃ bytes t, file = some bytes ∧ Utf8.decode? bytes = some t ∧ Datum.ofJson? t = some (.record fields)

/-- The fields that a configuration counts for, or the file if there is none: the fields of a record. Any
    other value and any other file count for a record without fields. -/
inductive Counts (file : FileContent) : Datum → Assoc Datum → Prop where
  | record (fields : Assoc Datum) : Counts file (.record fields) fields
  | other {given : Datum} (some : given ≠ .null) (noRecord : ∀ fields, given ≠ .record fields) :
      Counts file given []
  | file {fields : Assoc Datum} (holds : Holds file fields) : Counts file .null fields
  | unusable (nothing : ∀ fields, ¬ Holds file fields) : Counts file .null []

theorem FirstText.dark {values : List (Option Datum)} {t : Text} (first : FirstText values t) : ¬ Blanks t := by
  obtain ⟨_, _, _, dark, _⟩ := first
  exact dark

theorem exists_firstText {values : List (Option Datum)} {s : Text}
    (found : values.findSome? (·.bind Datum.nonBlank?) = some s) :
    ∃ t, FirstText values t ∧ t.trim = s := by
  obtain ⟨before, value, after, rfl, here, none⟩ := List.findSome?_eq_some_iff.mp found
  obtain ⟨d, rfl, filled⟩ := Option.bind_eq_some_iff.mp here
  obtain ⟨t, rfl, dark, trimmed⟩ := Datum.nonBlank?_eq_some.mp filled
  refine ⟨t, ⟨before, after, rfl, dark, ?_⟩, trimmed⟩
  intro u member
  have blank : (Datum.text u).nonBlank? = Option.none := none _ member
  exact Datum.nonBlank?_eq_none.mp blank u rfl

theorem findSome?_candidates (env : Environment) (fields : Assoc Datum) :
    (candidates env fields).findSome? (·.bind Datum.nonBlank?) = some (searchKeyText env fields) := by
  have last : [some (Datum.text SearchKey.standard.text)].findSome? (·.bind Datum.nonBlank?) =
      some SearchKey.standard.text := by decide
  have spelled : ((env.find? "QUICKSEARCH_SEARCH_KEY".toList).map Datum.text).bind Datum.nonBlank? =
      (env.find? "QUICKSEARCH_SEARCH_KEY".toList).bind trimmed? := by
    rw [Option.bind_map]
    rfl
  rw [candidates, searchKeyText, List.findSome?_cons, List.findSome?_cons, last, spelled]
  cases (fields.find? "search_key".toList).bind Datum.nonBlank? with
  | some key => rfl
  | none => cases (env.find? "QUICKSEARCH_SEARCH_KEY".toList).bind trimmed? <;> rfl

theorem searchKey_first (env : Environment) (fields : Assoc Datum) :
    ∃ t, FirstText (candidates env fields) t ∧ searchKey env fields = .ok ⟨t.trim⟩ := by
  obtain ⟨t, first, trimmed⟩ := exists_firstText (findSome?_candidates env fields)
  -- the text was trimmed when it was chosen, and a key is made of it by trimming it again
  have kept := trimmed_trim first.dark
  refine ⟨t, first, ?_⟩
  rw [searchKey, ← trimmed, SearchKey.make_text (mt trim_eq_nil.mpr (kept.2.symm ▸ kept.1)), kept.2]

section File
variable {env : Environment} {files : Place → FileContent} {given : Datum}

theorem ofFile_counts (file : FileContent) : Counts file .null (ofFile file) := by
  have read_iff (fields : Assoc Datum) :
      (file.bind Utf8.decode?).bind Datum.ofJson? = some (.record fields) ↔ Holds file fields := by
    simp only [Option.bind_eq_some_iff, Holds]
    grind
  unfold ofFile
  split
  · rename_i fields read
    exact .file ((read_iff fields).mp read)
  · rename_i other
    exact .unusable fun fields holds => other fields ((read_iff fields).mpr holds)

theorem locate_away (away : ¬ FromHome env) : locate env = .ok (place env) := by
  unfold locate place
  cases named : env.find? "QUICKSEARCH_CONFIG".toList with
  | none => rfl
  | some t =>
    dsimp only [Option.bind_some, trimmed?]
    by_cases blank : t.trim = []
    · rw [if_pos blank, if_pos blank]
    · rw [if_neg blank, if_neg blank, Location.expandHome_away fun home => away ⟨t, named, home⟩]
      rfl

theorem locate_error {fault : Fault} (refused : locate env = .error fault) :
    FromHome env ∧ fault = .noHomeDirectory := by
  constructor
  · by_contra away
    rw [locate_away away] at refused
    cases refused
  · unfold locate at refused
    split at refused
    · cases refused
    · split at refused
      · cases refused
      · exact Location.expandHome_error (map_error.mp refused)

theorem fieldsGiven_counts {found : Place} (files : Place → FileContent)
    (there : given = .null → locate env = .ok found) :
    ∃ fields, fieldsGiven env files given = .ok fields ∧ Counts (files found) given fields := by
  cases given with
  | null =>
    refine ⟨ofFile (files found), ?_, ofFile_counts _⟩
    rw [fieldsGiven, load, there rfl]
    rfl
  | record fields => exact ⟨fields, rfl, .record fields⟩
  | _ => exact ⟨[], rfl, .other nofun nofun⟩

theorem fieldsGiven_error {fault : Fault} (refused : fieldsGiven env files given = .error fault) :
    given = .null ∧ FromHome env ∧ fault = .noHomeDirectory := by
  cases given with
  | null => exact ⟨rfl, locate_error (map_error.mp refused)⟩
  | _ => cases refused

/-- There is a search key for every environment and every configuration, and for every file if no configuration
    is given: of the field, the variable and the standard, the first one that is a text with something in it,
    trimmed. To give what was read from the file is as good as to give nothing. The file is at the path of the
    environment, and nothing is refused but a path that begins with a home directory which is not known. -/
theorem configuredKey_first (env : Environment) (files : Place → FileContent) (given : Datum) :
    (∀ found, (given = .null → locate env = .ok found) →
        ∃ fields t, Counts (files found) given fields ∧ FirstText (candidates env fields) t ∧
          configuredKey env files given = .ok ⟨t.trim⟩ ∧ t.trim.Trimmed) ∧
      (∀ found, locate env = .ok found →
        ∃ fields, load env files = .ok fields ∧ Counts (files found) .null fields ∧
          configuredKey env files (.record fields) = configuredKey env files .null) ∧
      (¬ FromHome env → locate env = .ok (place env)) ∧
      ∀ fault, configuredKey env files given = .error fault →
        given = .null ∧ FromHome env ∧ fault = .noHomeDirectory := by
  refine ⟨?_, ?_, locate_away, ?_⟩
  · intro found there
    obtain ⟨fields, said, counts⟩ := fieldsGiven_counts files there
    obtain ⟨t, first, key⟩ := searchKey_first env fields
    refine ⟨fields, t, counts, first, ?_, trimmed_trim first.dark⟩
    rw [configuredKey, said]
    exact key
  · intro found there
    obtain ⟨fields, read, counts⟩ :
        ∃ fields, fieldsGiven env files .null = .ok fields ∧ Counts (files found) .null fields :=
      fieldsGiven_counts files fun _ => there
    have same : fieldsGiven env files (.record fields) = fieldsGiven env files .null := read.symm
    refine ⟨fields, read, counts, ?_⟩
    rw [configuredKey, configuredKey, same]
  · intro fault refused
    rw [configuredKey] at refused
    cases said : fieldsGiven env files given with
    | error other =>
      rw [said] at refused
      cases refused
      exact fieldsGiven_error said
    | ok fields =>
      obtain ⟨t, _, key⟩ := searchKey_first env fields
      rw [said] at refused
      exact absurd (key.symm.trans refused) nofun

theorem configuredKey_first_variable :
    let env : Environment :=
      [("QUICKSEARCH_CONFIG".toList, " qs.json".toList), ("QUICKSEARCH_SEARCH_KEY".toList, " find\t".toList)]
    let files : Place → FileContent := fun p =>
      if p = .elsewhere ⟨[], ["qs.json".toList]⟩ then some (Utf8.encode "\x7b\"search_key\": 5\x7d".toList)
      else none
    ¬ FromHome env ∧
      (∃ fields t, Counts (files (place env)) .null fields ∧ FirstText (candidates env fields) t ∧
        configuredKey env files .null = .ok ⟨t.trim⟩ ∧ t.trim.Trimmed) ∧
      configuredKey env files .null = .ok ⟨"find".toList⟩ := by
  intro env files
  have away : ¬ FromHome env := by
    rintro ⟨t, found, _, user, rest, parts⟩
    cases found
    have relative : (Location.ofText (trim " qs.json".toList)).parts = ["qs.json".toList] := by decide
    rw [relative] at parts
    cases parts
  obtain ⟨first, _, there, _⟩ := configuredKey_first env files .null
  exact ⟨away, first (place env) fun _ => there away, by decide +kernel⟩

/-- A path that begins with a point does not begin with a tilde, and yet no key comes of it where the name behind
    the point asks for the home directory of nobody known. -/
theorem configuredKey_pointed :
    ¬ ∀ (env : Environment) (files : Place → FileContent),
      (∀ path, env.find? "QUICKSEARCH_CONFIG".toList = some path → path.trim.head? ≠ some '~') →
        ∃ key, configuredKey env files .null = .ok key := by
  intro claimed
  let env : Environment := [("QUICKSEARCH_CONFIG".toList, "./~nosuchuser/qs.json".toList)]
  have refused (files : Place → FileContent) : configuredKey env files .null = .error .noHomeDirectory := by
    have nowhere : locate env = .error .noHomeDirectory := by decide
    rw [configuredKey, fieldsGiven, load, nowhere]
    rfl
  have pointed : ∀ path, env.find? "QUICKSEARCH_CONFIG".toList = some path → path.trim.head? ≠ some '~' := by
    rintro path ⟨⟩
    decide
  obtain ⟨key, made⟩ := claimed env (fun _ => none) pointed
  exact nomatch (refused _).symm.trans made

end File

end Configuration
end SearchBox
