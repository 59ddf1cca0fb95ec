import SearchBox.Fault

/- Tables as a query knows them: a name and typed fields. -/
namespace SearchBox

inductive FieldType where
  | int
  | string
  | text
  | datetime
  | date
  | bool
  deriving DecidableEq, Repr

def FieldType.isText : FieldType → Bool
  | .string | .text => true
  | _ => false

def FieldType.declared : FieldType → Text
  | .int => "INTEGER".toList
  | .string => "VARCHAR(64)".toList
  | .text => "TEXT".toList
  | .datetime => "DATETIME".toList
  | .date => "DATE".toList
  | .bool => "BOOLEAN".toList

structure Field where
  name : Text
  type : FieldType
  deriving DecidableEq, Repr

structure Table where
  name : Text
  fields : List Field
  deriving DecidableEq, Repr

def Table.field (t : Table) (name : Text) : Except Fault Field :=
  match t.fields.find? (·.name = name) with
  | some field => .ok field
  | none => .error (.unknownColumn (.text name))

/-- The field that a caller asks for: by its name or by its place, counted from zero. -/
def Table.fieldOf (t : Table) (given : Operand) : Except Fault Field :=
  match given with
  | .text name => t.field name
  | .int place =>
    match if 0 ≤ place then t.fields[place.toNat]? else none with
    | some field => .ok field
    | none => .error (.unknownColumn given)
  | .null => .error (.unknownColumn given)
  | .list _ => .error (.unhashable given.sort)

theorem Table.fieldOf_text (t : Table) (name : Text) : t.fieldOf (.text name) = t.field name := rfl

end SearchBox
