import SearchBox.Apply
import SearchBox.Sql
import SearchBox.Store.Database

/- Showing how a search text is understood: its predicates in words, the filters they become, and the rows
   they select. -/
namespace SearchBox.Explanation

def columnOf (written : Text) : Except Fault Column :=
  match written.cutAt? ':' with
  | some (name, label) => Column.make (.text name) (.text label)
  | none => Column.make (.text written) .null

def firstRepeated? (seen : List Text) : List Text → Option Text
  | [] => none
  | name :: rest => if seen.contains name then some name else firstRepeated? (name :: seen) rest

def textTable (columns : List Column) : Except Fault Table :=
  let name := "quick_search".toList
  match firstRepeated? [] (columns.map (·.name)) with
  | some column => .error (.duplicateColumn column name)
  | none => .ok { name, fields := columns.map fun c => ⟨c.name, .string⟩ }

/-- The dialect that a value names. What does not hold names none, but a query can begin with it. -/
def dialectOf : Datum → Except Fault SqlDialect
  | .text name =>
    match SqlDialect.ofName? name with
    | some d => .ok d
    | none => .error (.unknownDialect (Quoted.encode name))
  | .list _ => .error (.unhashable "list".toList)
  | .record _ => .error (.unhashable "dict".toList)
  | d => .error (.showing .unknownDialect d.written?)

def queryOver (table : Table) : Datum → Except Fault Query
  | .text name => .ok (Query.start table (some name))
  | d =>
    if d.holds then .error (.lacks d.sort "lower")
    else .ok (Query.start table none)

/-- The filters of all predicates. The name of the dialect is judged after the predicates. -/
def whereLine (predicates : List Predicate) (columns : List Column) (dialect : Datum) :
    Except Fault Text := do
  let table ← textTable columns
  let query ← queryOver table dialect
  let outcome := (query.filterByAll false predicates).value
  let _ ← outcome.result
  let text ← outcome.query.whereText (← dialectOf dialect)
  return "WHERE ".toList ++ text.getD []

def lines (search : Option Text) (columns : List Column) (dialect : Datum) (withSql : Bool) :
    Except Fault (List Text) :=
  match compile search (ColumnMap.ofColumns columns) with
  | [] => .ok ["(no predicates)".toList]
  | predicates => do
    let words ← predicates.mapM Predicate.describe
    if withSql then return words ++ [← whereLine predicates columns dialect] else return words

def recordLines (search : Option Text) (columns : List Column) (dialect : Datum) (withSql : Bool) :
    Logged Unit := do
  let predicates ← compileLogged search (← ColumnMap.ofColumnsLogged columns)
  match predicates, (textTable columns).bind (queryOver · dialect) with
  | _ :: _, .ok query =>
    if withSql then
      let _ ← query.filterByAll true predicates
      return
    else return
  | _, _ => return

def rowLines (db : Database) (search : Option Text) (columns : List Column) (tableName : Text) :
    Except Fault (List Text) := do
  let found ← db.reflect tableName
  let query := Query.start found.stored.table (some "sqlite".toList)
  let outcome := (query.filterByAll false (compile search (ColumnMap.ofColumns columns))).value
  let _ ← outcome.result
  let rows ← outcome.query.fetch found.stored.rows
  return rows.map Row.shown ++ [Text.ofNat rows.length ++ " row(s)".toList]

end SearchBox.Explanation
