import SearchBox.Apply

/- Grids: searchable listings over one table, with labelled columns. -/
namespace SearchBox

structure Grid where
  name : Datum
  table : Table
  columns : List Column
  search : Option Search
  position : Definition
  key : SearchKey

inductive ColumnEntry where
  | column (c : Column)
  | arguments (args : List Datum)
  | single (d : Datum)

namespace Grid

structure Description where
  name : Datum
  table : Text
  columns : List Column
  search : Option Datum
  position : Definition
  key : Text

def columnOfArguments : List Datum → Except Fault Column
  | [] => .error .columnNameMissing
  | [name] => Column.make name .null
  | [name, label] => Column.make name label
  | args => .error (.columnArguments args.length)

def columnOfEntry : ColumnEntry → Except Fault Column
  | .column c => .ok c
  | .arguments args => columnOfArguments args
  | .single d => columnOfArguments [d]

def make (name : Datum) (table : Table) (entries : List ColumnEntry) (key : SearchKey) :
    Except Fault Grid :=
  if name.holds then do
    let columns ← entries.mapM columnOfEntry
    return { name, table, columns, search := none, position := .plain .null, key }
  else .error .missingGridName

def addColumn (g : Grid) (args : List Datum) : Except Fault (Grid × Column) := do
  let c ← columnOfArguments args
  return ({ g with columns := g.columns ++ [c] }, c)

def setKey (g : Grid) (key : Datum) : Except Fault Grid := do
  let k ← SearchKey.make key
  return { g with key := k }

/-- The arguments that define a search, and its position. After a callback the position may come as the
    second argument. -/
def splitPosition (args : List Definition) (position : Definition) :
    List Definition × Definition :=
  match args with
  | [first, second] =>
    if first.callback?.isSome then ([first], if position.isNull then second else position)
    else (args, position)
  | _ => (args, position)

def setSearch (g : Grid) (args : List Definition) (position : Definition) :
    Logged (Except Fault Grid) :=
  let (args, position) := splitPosition args position
  match Search.ofArguments args with
  | .error fault => pure (.error fault)
  | .ok spec => do
    Logged.debugIf "quicksearch.grid" do
      return "Grid ".toList ++ (← g.name.plain?) ++ " quick search: ".toList ++ spec.shown ++
        " (position=".toList ++ (← position.written?) ++ [')']
    return .ok { g with search := some spec, position := position }

def columnMap (g : Grid) : ColumnMap := ColumnMap.ofColumns g.columns

def startQuery (g : Grid) : List Datum → Except Fault Query
  | [] | [.null] | [.text []] => .ok (Query.start g.table (some "postgresql".toList))
  | [.text dialect] => .ok (Query.start g.table (some dialect))
  | [d] => .error (.lacks d.sort "dialect")
  | args => .error (.queryArguments args.length)

def apply (debug : Bool) (g : Grid) (params : Assoc Datum) (q : Query) (key : Option SearchKey) :
    Logged (Outcome Datum) :=
  match g.search with
  | none => do
    Logged.debugIf "quicksearch.grid"
      (g.name.plain?.map fun name => "Grid ".toList ++ name ++ " has no quick search configured".toList)
    return ⟨q, .ok .null⟩
  | some spec => do
    let map ← ColumnMap.ofColumnsLogged g.columns
    q.applyRequest debug spec map (key.getD g.key) params

def describe (g : Grid) : Description :=
  { name := g.name, table := g.table.name, columns := g.columns,
    search := g.search.map Search.describe, position := g.position, key := g.key.text }

def Description.asDatum (d : Description) : Datum :=
  let column (c : Column) : Datum :=
    .record [("name".toList, .text c.name), ("label".toList, .text c.label)]
  .record [
    ("name".toList, d.name), ("table".toList, .text d.table),
    ("columns".toList, .list (d.columns.map column)), ("search".toList, d.search.getD .null),
    ("search_position".toList, d.position.asDatum), ("search_key".toList, .text d.key)]

def written? (g : Grid) : Option Text :=
  g.name.written?.map fun name =>
    "Grid(name=".toList ++ name ++ ", table=".toList ++ Quoted.encode g.table.name ++
      ", columns=".toList ++ Text.ofNat g.columns.length ++ [')']

end Grid
end SearchBox
