import SearchBox.Compile
import SearchBox.SearchKey
import SearchBox.Search

/- Applying a search text to a query, with the records written on the way. -/
namespace SearchBox

namespace SearchTerm

def parseLogged (map : ColumnMap) : List Text → Logged (List SearchTerm)
  | [] => pure []
  | token :: rest => do
    match parse map token with
    | .error dropped =>
      Logged.debug "quicksearch.search_expression" dropped.message
      parseLogged map rest
    | .ok term => return term :: (← parseLogged map rest)

def classifyLogged (t : SearchTerm) : Logged Predicate := do
  let shape := Shape.ofCondition t.condition
  let predicate := shape.predicate t
  match predicate.describe with
  | .ok words =>
    Logged.debug "quicksearch.search_expression"
      ("Classified ".toList ++ Quoted.encode t.condition ++ " on ".toList ++
        Quoted.encode t.column ++ " as ".toList ++ shape.name ++ " -> ".toList ++ words)
  | .error _ => pure ()
  return predicate

end SearchTerm

def ColumnMap.ofColumnsLogged (columns : List Column) : Logged ColumnMap := do
  let map := ColumnMap.ofColumns columns
  Logged.debug "quicksearch.columns"
    ("Built column map with ".toList ++ Text.ofNat map.length ++ " keys".toList)
  return map

/-- All tokens are read first and all terms classified after that. -/
def compileLogged (raw : Option Text) (map : ColumnMap) : Logged (List Predicate) := do
  let terms ← SearchTerm.parseLogged map (Token.tokenize (raw.getD []))
  terms.mapM SearchTerm.classifyLogged

namespace Query

def searched (raw : Text) (tail : Text) : Text := "Quick search ".toList ++ Quoted.encode raw ++ tail

def applyTokens (debug : Bool) (q : Query) (map : ColumnMap) (raw : Text) : Logged (Outcome Datum) := do
  let predicates ← compileLogged (some raw) map
  let outcome ← q.filterByAll debug predicates
  match outcome.result with
  | .error fault => return ⟨outcome.query, .error fault⟩
  | .ok count =>
    Logged.debug "quicksearch.quick_search"
      (searched raw (" produced ".toList ++ Text.ofNat count ++ " predicates".toList))
    return ⟨outcome.query, .ok .null⟩

/-- Every listed column is matched with the whole text, taken as it is. -/
def applyColumns (debug : Bool) (q : Query) (names : List Text) (raw : Text) :
    Logged (Outcome Datum) := do
  let pattern := '%' :: raw ++ ['%']
  let outcome ← q.filterByAll debug (names.map fun name => Predicate.ofPattern name pattern)
  match outcome.result with
  | .error fault => return ⟨outcome.query, .error fault⟩
  | .ok _ =>
    Logged.debug "quicksearch.quick_search"
      (searched raw (" matched against ".toList ++ Text.ofNat names.length ++ " columns".toList))
    return ⟨outcome.query, .ok .null⟩

def applySearch (debug : Bool) (q : Query) (spec : Search) (map : ColumnMap) (raw : Text) :
    Logged (Outcome Datum) :=
  match spec with
  | .custom callback => do
    Logged.debug "quicksearch.quick_search" (searched raw " handed to custom callback".toList)
    return callback.run raw q
  | .columns names => q.applyColumns debug names raw
  | .base | .tokens => q.applyTokens debug map raw

def applyRequest (debug : Bool) (q : Query) (spec : Search) (map : ColumnMap) (key : SearchKey)
    (params : Assoc Datum) : Logged (Outcome Datum) :=
  match key.read params with
  | .error fault => pure ⟨q, .error fault⟩
  | .ok none => pure ⟨q, .ok .null⟩
  | .ok (some raw) => q.applySearch debug spec map raw

end Query
end SearchBox
