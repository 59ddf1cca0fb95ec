import SearchBox.Store.Selection

/- Databases as sets of stored tables. Small and capital letters of the Latin alphabet are the same in
   names of tables and schemas; the one schema that holds tables is `main`, and `temp` is there but empty. -/
namespace SearchBox

structure StoredTable where
  table : Table
  rows : List Row
  deriving Repr

structure Database where
  tables : List StoredTable
  deriving Repr

structure Reflected where
  schema : Option Text
  stored : StoredTable
  deriving Repr

namespace Database

def empty : Database := ⟨[]⟩

def sameName (a b : Text) : Bool := a.map Like.fold = b.map Like.fold

def rowsOf (db : Database) (name : Text) : Except Fault (List Row) :=
  match db.tables.find? fun s => sameName s.table.name name with
  | some s => .ok s.rows
  | none => .error (.database ("(sqlite3.OperationalError) no such table: ".toList ++ name))

/-- The table that holds the definitions of all others; each of the two schemas has one, with two names. -/
def definitionTable : Table :=
  { name := "sqlite_master".toList
    fields := [⟨"type".toList, .text⟩, ⟨"name".toList, .text⟩, ⟨"tbl_name".toList, .text⟩,
      ⟨"rootpage".toList, .int⟩, ⟨"sql".toList, .text⟩] }

def definitionNames : List Text := ["sqlite_master".toList, "sqlite_schema".toList]

def temporaryDefinitionNames : List Text := ["sqlite_temp_master".toList, "sqlite_temp_schema".toList]

def reflect (db : Database) (name : Text) : Except Fault Reflected :=
  let (schema, base) := (Text.cutAtLast? '.' name).getD ([], name)
  let find (tables : List StoredTable) (definitions : List Text) (schema : Option Text) :
      Except Fault Reflected :=
    match tables.find? fun s => sameName s.table.name base with
    | some s => .ok ⟨schema, { s with table := { s.table with name := base } }⟩
    | none =>
      if definitions.any (sameName base) then
        .ok ⟨schema, { table := { definitionTable with name := base }, rows := [] }⟩
      else .error (.tableNotFound name)
  let allDefinitions := definitionNames ++ temporaryDefinitionNames
  if schema = [] then find db.tables allDefinitions none
  else if sameName schema "main".toList then find db.tables definitionNames (some schema)
  else if sameName schema "temp".toList then find [] allDefinitions (some schema)
  else .error (.database ("unknown database ".toList ++ schema))

end Database
end SearchBox
