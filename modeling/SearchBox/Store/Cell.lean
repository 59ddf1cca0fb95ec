import SearchBox.Assoc
import SearchBox.Operand
import SearchBox.Store.Calendar
import SearchBox.Table

/- Cells of a stored row, and how they compare with the values of a filter. A truth value is kept as the
   number one or zero, and days and moments are kept as texts. -/
namespace SearchBox

inductive Cell where
  | null
  | truth (b : Bool)
  | int (n : Int)
  | text (t : Text)
  | date (m : Moment)
  | moment (m : Moment)
  deriving DecidableEq, Repr

abbrev Row := Assoc Cell

/-- What comparisons see: numbers come before all texts, and a missing value compares with nothing. -/
inductive Cell.Measure where
  | null
  | number (q : Quantity)
  | text (t : Text)
  deriving DecidableEq, Repr

namespace Cell

namespace Measure

/-- A text compared with a numeric field counts as the number it reads as, if it does. A list never gets to
    a store. -/
def ofOperand (type : FieldType) : Operand → Measure
  | .null | .list _ => .null
  | .int n => if type.isText then .text (Text.ofInt n) else .number (.whole n)
  | .text t =>
    if type.isText then .text t
    else match Quantity.ofText? t with
      | some q => .number q
      | none => .text t

def plain : Operand → Measure
  | .null | .list _ => .null
  | .int n => .number (.whole n)
  | .text t => .text t

def order? : Measure → Measure → Option Ordering
  | .null, _ | _, .null => none
  | .number a, .number b => some (a.order b)
  | .number _, .text _ => some .lt
  | .text _, .number _ => some .gt
  | .text a, .text b => some (Text.order a b)

end Measure

def measure : Cell → Measure
  | .null => .null
  | .truth b => .number (.whole (if b then 1 else 0))
  | .int n => .number (.whole n)
  | .text t => .text t
  | .date m => .text m.dateText
  | .moment m => .text m.stored

def text? : Cell → Option Text
  | .null => none
  | .truth b => some [if b then '1' else '0']
  | .int n => some (Text.ofInt n)
  | .text t => some t
  | .date m => some m.dateText
  | .moment m => some m.stored

def moment? : Cell → Option Moment
  | .null => none
  | .truth b => Calendar.ofNumber? (.whole (if b then 1 else 0))
  | .int n => Calendar.ofNumber? (.whole n)
  | .text t => Calendar.ofText? t
  | .date m | .moment m => some m

def shown : Cell → Text
  | .null => "None".toList
  | .truth b => if b then "True".toList else "False".toList
  | .int n => Text.ofInt n
  | .text t => Quoted.encode t
  | .date m => m.dayShown
  | .moment m => m.shown

end Cell

def Row.cell (row : Row) (field : Field) : Cell := (Assoc.find? row field.name).getD .null

def Row.shown (row : Row) : Text :=
  let fields := row.map fun (name, cell) => Quoted.encode name ++ ": ".toList ++ cell.shown
  '\x7b' :: Text.join ", ".toList fields ++ ['\x7d']

end SearchBox
