import SearchBox.JsonReader
import SearchBox.SearchKey
import SearchBox.Settings.Location

/- The configuration: where its file is, what the file says, and the search key that follows from it and
   from the environment. A file that cannot be used counts as one that says nothing. -/
namespace SearchBox.Configuration

/-- Where the configuration is kept unless a variable says otherwise, as seen from the program's own
    directory. -/
def standardLocation : Location := Location.ofText "config/quicksearch.json".toList

inductive Place where
  /-- A location within the program's own directory. -/
  | own (l : Location)
  | elsewhere (l : Location)
  deriving DecidableEq, Repr

def locate (env : Environment) : Except Fault Place :=
  match env.find? "QUICKSEARCH_CONFIG".toList with
  | none => .ok (.own standardLocation)
  | some t =>
    if t.trim = [] then .ok (.own standardLocation)
    else ((Location.ofText t.trim).expandHome env).map .elsewhere

def ofFile (file : FileContent) : Assoc Datum :=
  match (file.bind Utf8.decode?).bind Datum.ofJson? with
  | some (.record fields) => fields
  | _ => []

/-- What the configuration file says; `files` is what there is at each place. -/
def load (env : Environment) (files : Place → FileContent) : Except Fault (Assoc Datum) :=
  (locate env).map fun place => ofFile (files place)

def fieldsOf : Datum → Assoc Datum
  | .record fields => fields
  | _ => []

def trimmed? (t : Text) : Option Text := if t.trim = [] then none else some t.trim

def searchKeyText (env : Environment) (fields : Assoc Datum) : Text :=
  match (fields.find? "search_key".toList).bind Datum.nonBlank? with
  | some key => key
  | none =>
    match (env.find? "QUICKSEARCH_SEARCH_KEY".toList).bind trimmed? with
    | some key => key
    | none => SearchKey.standard.text

def searchKey (env : Environment) (fields : Assoc Datum) : Except Fault SearchKey :=
  SearchKey.make (.text (searchKeyText env fields))

/-- What a configuration says. If none is given, which is what null stands for, the file is read. -/
def fieldsGiven (env : Environment) (files : Place → FileContent) : Datum → Except Fault (Assoc Datum)
  | .null => load env files
  | given => .ok (fieldsOf given)

def configuredKey (env : Environment) (files : Place → FileContent) (given : Datum) :
    Except Fault SearchKey := do
  searchKey env (← fieldsGiven env files given)

end SearchBox.Configuration
