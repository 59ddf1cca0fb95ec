import SearchBox.Datum
import SearchBox.Fault

/- Columns of a grid and the map from what users write to the columns' names. -/
namespace SearchBox

structure Column where
  name : Text
  label : Text
  deriving DecidableEq, Repr

namespace Column

/-- Name and label are trimmed; a label that is blank or no text is replaced by the name. -/
def make (name label : Datum) : Except Fault Column :=
  match name.nonBlank? with
  | none => .error .blankColumnName
  | some n => .ok ⟨n, label.nonBlank?.getD n⟩

def shown (c : Column) : Text :=
  "Column(name=".toList ++ Quoted.encode c.name ++ ", label=".toList ++ Quoted.encode c.label ++ [')']

end Column

abbrev ColumnMap := Assoc Text

namespace ColumnMap

def add (m : ColumnMap) (c : Column) : ColumnMap :=
  Assoc.insert (Assoc.insert m c.label c.name) c.name c.name

/-- A key taken twice belongs to the column registered last. -/
def ofColumns (columns : List Column) : ColumnMap := columns.foldl add []

def resolve (m : ColumnMap) (key : Text) : Option Text :=
  if key = [] then none else Assoc.find? m key

end ColumnMap
end SearchBox
