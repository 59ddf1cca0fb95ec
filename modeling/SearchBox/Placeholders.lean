import SearchBox.Filtering
import SearchBox.Sql

/- Statements with names in the place of their values, as records show them. A name tells what its value is
   compared with and is numbered, so that each is used once. -/
namespace SearchBox.Placeholders

abbrev Names := Assoc Nat

def named (names : Names) (base : Text) : Text × Names :=
  let count := (names.find? base).getD 0 + 1
  (base ++ '_' :: Text.ofNat count, names.insert base count)

def value (names : Names) (base : Text) : Operand → Text × Names
  | .null => ("NULL".toList, names)
  | _ =>
    let (name, names) := named names base
    (':' :: name, names)

/-- Each run of characters that cannot stand in a name as one low line. -/
def joinRuns : Text → Text
  | [] => []
  | c :: rest =>
    let isBarred (c : Char) : Bool := "%() $".toList.contains c
    if !isBarred c then c :: joinRuns rest
    else match rest with
      | d :: _ => if isBarred d then joinRuns rest else '_' :: joinRuns rest
      | [] => ['_']

def nameOf (field : Field) : Text :=
  let name := (joinRuns field.name).dropWhile (· = '_')
  (name.reverse.dropWhile (· = '_')).reverse

/-- What a comparison is with: a function on a field gives its own name, every other expression none. -/
def partName (p : DatePart) (form : PartForm) : Text :=
  match form with
  | .function => p.name
  | _ => "param".toList

def comparison (names : Names) (subject base : Text) (c : Comparison) (o : Operand) : Text × Names :=
  match c, o with
  | .equal, .null => (subject ++ " IS NULL".toList, names)
  | .notEqual, .null => (subject ++ " IS NOT NULL".toList, names)
  | _, _ =>
    let (name, names) := value names base o
    (subject ++ ' ' :: Sql.comparisonSign c ++ ' ' :: name, names)

def matching (form pattern : Text) : MatchStyle → Text
  | .like => form ++ " LIKE ".toList ++ pattern
  | .ilike => "lower(".toList ++ form ++ ") LIKE lower(".toList ++ pattern ++ [')']
  | .regexp => form ++ " <regexp> ".toList ++ pattern

def part (subject : Text) (p : DatePart) (form : PartForm) : Text :=
  match form with
  | .number => "EXTRACT(".toList ++ p.name ++ " FROM ".toList ++ subject ++ [')']
  | .function => p.name ++ '(' :: subject ++ [')']
  | .conversion => "CAST(".toList ++ subject ++ (if p = .date then " AS DATE)" else " AS TIME)").toList

def clause (table : Text) (names : Names) : Clause → Text × Names
  | .compare field c o => comparison names (Sql.column .sqlite table field) (nameOf field) c o
  | .matching field style pattern =>
    let form := Sql.textForm .sqlite (Sql.column .sqlite table field) field
    let base := if field.type.isText then nameOf field else "param".toList
    let (pattern, names) := value names base pattern
    (matching form pattern style, names)
  | .member field negated _ =>
    let subject := Sql.column .sqlite table field
    let (name, names) := named names (nameOf field)
    let list := "(__[POSTCOMPILE_".toList ++ name ++ "])".toList
    if negated then ('(' :: subject ++ " NOT IN ".toList ++ list ++ [')'], names)
    else (subject ++ " IN ".toList ++ list, names)
  | .between field low high =>
    let (low, names) := value names (nameOf field) low
    let (high, names) := value names (nameOf field) high
    (Sql.column .sqlite table field ++ " BETWEEN ".toList ++ low ++ " AND ".toList ++ high, names)
  | .part field p form o =>
    comparison names (part (Sql.column .sqlite table field) p form) (partName p form) .equal o

def written {α : Type} (write : Names → α → Text × Names) : Names → List α → List Text × Names
  | names, [] => ([], names)
  | names, a :: rest =>
    let (text, names) := write names a
    let (texts, names) := written write names rest
    (text :: texts, names)

def group (table : Text) (names : Names) (clauses : List Clause) : Text × Names :=
  let (texts, names) := written (clause table) names clauses
  (Text.join " AND ".toList texts, names)

end Placeholders

namespace Query

def outline (q : Query) : Text :=
  let columns := q.table.fields.map (Sql.column .sqlite q.table.name)
  let (filters, _) := Placeholders.written (Placeholders.group q.table.name) []
    (Formula.groups q.filters)
  "SELECT ".toList ++ Text.join ", ".toList columns ++ " \nFROM ".toList ++
    Sql.identifier .sqlite q.table.name ++
    if filters = [] then [] else " \nWHERE ".toList ++ Text.join " OR ".toList filters

def recordFetch (q : Query) : Logged Unit :=
  Logged.debug "quicksearch.model_query" ("Executing ".toList ++ q.outline)

end Query
end SearchBox
