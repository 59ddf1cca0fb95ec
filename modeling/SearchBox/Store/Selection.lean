import SearchBox.Query
import SearchBox.Store.Cell
import SearchBox.Store.Like
import SearchBox.Store.RegexpReader
import SearchBox.Store.Truth

/- Which rows of a store a query selects. Filters are judged from left to right: a group is left at its
   first filter that is not true, and the first true group selects the row. -/
namespace SearchBox

namespace Comparison

def accepts (c : Comparison) (o : Ordering) : Bool :=
  match c with
  | .equal => o == .eq
  | .notEqual => o != .eq
  | .greater => o == .gt
  | .greaterEqual => o != .lt
  | .less => o == .lt
  | .lessEqual => o != .gt

def truth (c : Comparison) (a b : Cell.Measure) : Truth :=
  match a.order? b with
  | none => .unknown
  | some o => .ofBool (c.accepts o)

end Comparison

namespace Clause

/-- Equality and its opposite ask whether a value is missing when they are given null. -/
def compareTruth (cell : Cell.Measure) (type : FieldType) (c : Comparison) (value : Operand) : Truth :=
  match c, value with
  | .equal, .null => .ofBool (cell = .null)
  | .notEqual, .null => .ofBool (cell ≠ .null)
  | _, _ => c.truth cell (.ofOperand type value)

def likeTruth (t : Option Text) (pattern : Operand) : Truth :=
  match t, pattern with
  | some t, .text p => .ofBool (Like.matchesText p t)
  | some t, .int n => .ofBool (Like.matchesText (Text.ofInt n) t)
  | _, _ => .unknown

/-- A missing value is judged before its pattern, which may be no expression. -/
def regexpTruth (t : Option Text) (pattern : Operand) : Except Fault Truth :=
  match t, pattern with
  | none, _ => .ok .unknown
  | some t, .text p =>
    match Regexp.parse? p with
    | some r => .ok (.ofBool (r.isFoundIn t))
    | none => .error (.database "user-defined function raised exception".toList)
  | some _, _ => .error (.database "user-defined function raised exception".toList)

def memberTruth (cell : Cell.Measure) (type : FieldType) (negated : Bool) (values : List Operand) :
    Truth :=
  let found := Truth.any (values.map fun v => Comparison.equal.truth cell (.ofOperand type v))
  if negated then found.not else found

def partMeasure (cell : Cell) (p : DatePart) : Cell.Measure :=
  match cell.moment? with
  | none => .null
  | some m =>
    match p with
    | .date => .text m.dateText
    | .time => .text m.timeText
    | .day => .number (.whole m.day)
    | .month => .number (.whole m.month)
    | .year => .number (.whole m.year)

def partTruth (cell : Cell) (p : DatePart) (form : PartForm) (value : Operand) : Truth :=
  let measure := partMeasure cell p
  match form, value with
  | _, .null => .ofBool (measure = .null)
  | .number, _ => Comparison.equal.truth measure (.ofOperand .int value)
  | _, _ => Comparison.equal.truth measure (.plain value)

def truth (row : Row) : Clause → Except Fault Truth
  | .compare field c value => .ok (compareTruth (row.cell field).measure field.type c value)
  | .matching field .regexp pattern => regexpTruth (row.cell field).text? pattern
  | .matching field _ pattern => .ok (likeTruth (row.cell field).text? pattern)
  | .member field negated values =>
    .ok (memberTruth (row.cell field).measure field.type negated values)
  | .between field low high =>
    let measure := (row.cell field).measure
    .ok ((Comparison.greaterEqual.truth measure (.ofOperand field.type low)).and
      (Comparison.lessEqual.truth measure (.ofOperand field.type high)))
  | .part field p form value => .ok (partTruth (row.cell field) p form value)

def operands : Clause → List Operand
  | .compare _ _ value | .matching _ _ value | .part _ _ _ value => [value]
  | .member _ _ values => values
  | .between _ low high => [low, high]

/-- A list that starts with null has the type of its field. A field of truth values takes one and zero only,
    and a field of days or moments takes neither texts nor numbers. -/
def takesItems : Clause → Bool
  | .member field _ (.null :: values) =>
    values.all fun v => v = .null || field.type.isText || field.type = .int ||
      (field.type = .bool && (v = .int 0 || v = .int 1))
  | _ => true

def isBindable (c : Clause) : Bool := c.operands.all (!·.isList) && c.takesItems

def isOversized (c : Clause) : Bool :=
  c.operands.any fun
    | .int n => !Quantity.fits n
    | _ => false

end Clause

namespace Formula
variable {α : Type}

mutual

def holds (judge : α → Except Fault Truth) : Formula α → Except Fault Bool
  | .one item => do return decide ((← judge item) = .yes)
  | .all parts => allHold judge parts
  | .any parts => someHolds judge parts

def allHold (judge : α → Except Fault Truth) : List (Formula α) → Except Fault Bool
  | [] => .ok true
  | part :: rest => do
    if ← holds judge part then allHold judge rest else return false

def someHolds (judge : α → Except Fault Truth) : List (Formula α) → Except Fault Bool
  | [] => .ok false
  | part :: rest => do
    if ← holds judge part then return true else someHolds judge rest

end

end Formula

namespace Query

def selects (q : Query) (row : Row) : Except Fault Bool :=
  match q.whereClause with
  | none => .ok true
  | some f => f.holds (Clause.truth row)

def selection (q : Query) : List Row → Except Fault (List Row)
  | [] => .ok []
  | row :: rest => do
    let isSelected ← q.selects row
    let others ← q.selection rest
    return if isSelected then row :: others else others

/-- The selected rows in the order of the store. The operands are judged before any row is. -/
def fetch (q : Query) (rows : List Row) : Except Fault (List Row) :=
  let clauses := q.filters.map (·.item)
  if clauses.any fun c => !c.isBindable then .error .unbindableLiteral
  else if clauses.any Clause.isOversized then .error .oversizedInteger
  else q.selection rows

end Query
end SearchBox
