import SearchBox.Clause
import SearchBox.Formula
import SearchBox.Text.LetterCase

/- Queries collect filters for one table, each joined to those before it by AND or OR. Nothing is
   parenthesised: AND binds tighter, so an OR filter starts a new group. -/
namespace SearchBox

def Connective.ofWord (word : Text) : Except Fault Connective :=
  if word.lower = "and".toList then .ok .and
  else if word.lower = "or".toList then .ok .or
  else .error (.unknownConnective word.lower)

structure Query where
  table : Table
  dialect : Text
  filters : List (Entry Clause)
  deriving DecidableEq, Repr

namespace Operand

/-- The values of a list; a text counts as the list of its characters. -/
def items : Operand → Except Fault (List Operand)
  | .list vs => .ok vs
  | .text t => .ok (t.map fun c => .text [c])
  | given => .error (.notASequence given.sort)

def pair (given : Operand) : Except Fault (Operand × Operand) :=
  match given.items with
  | .error _ => .error (.notAPair given.sort)
  | .ok [low, high] => .ok (low, high)
  | .ok vs => .error (if vs.length < 2 then .tooFewBounds vs.length else .tooManyBounds)

def word : Operand → Except Fault Text
  | .text t => .ok t
  | given => .error (.lacks given.sort "lower")

/-- The name of an operator. What does not hold names none, whatever it is. -/
def operatorName (given : Operand) : Except Fault Text :=
  if given.holds then given.word else .ok []

theorem operatorName_text (t : Text) : operatorName (.text t) = .ok t := by
  cases t <;> rfl

end Operand

inductive FilterCall where
  | compare (column : Text) (operator : Option Text) (value : Operand)
  | isIn (column : Text) (values : Operand) (negated : Bool)
  | notIn (column : Text) (values : Operand)
  | between (column : Text) (bounds : Operand)
  | datePart (part : Operand) (column : Text) (value : Operand)
  | like (column : Text) (pattern : Operand)
  | ilike (column : Text) (pattern : Operand)
  | regexp (column : Text) (pattern : Operand)
  deriving DecidableEq, Repr

namespace Query

def start (table : Table) (dialect : Option Text) : Query :=
  { table, dialect := (dialect.getD []).lower, filters := [] }

def prefersIlike (q : Query) : Bool := q.dialect = "postgresql".toList

def compareClause (q : Query) (column operator value : Operand) : Except Fault Clause := do
  let name ← operator.operatorName
  match Operator.ofName? name.lower with
  | none => .error (.unsupportedOperator operator)
  | some op => do
    let field ← q.table.fieldOf column
    op.clause field value

def memberClause (q : Query) (column values : Operand) (negated : Bool) : Except Fault Clause := do
  let field ← q.table.fieldOf column
  let items ← values.items
  return .member field negated items

def betweenClause (q : Query) (column bounds : Operand) : Except Fault Clause := do
  let (low, high) ← bounds.pair
  let field ← q.table.fieldOf column
  return .between field low high

def partValue (part : DatePart) (value : Operand) : Except Fault Operand :=
  match value with
  | .text t =>
    if part.isNumeric ∧ t.trim ≠ [] ∧ t.trim.all isDigit then
      (Integer.ofText t).map .int
    else .ok value
  | _ => .ok value

/-- SQLite keeps moments as texts, which its own functions take apart. -/
def partForm (q : Query) (part : DatePart) : PartForm :=
  if part.isNumeric then .number
  else if q.dialect = "sqlite".toList then .function
  else .conversion

def partClause (q : Query) (part column value : Operand) : Except Fault Clause := do
  let part ← DatePart.ofOperand part
  let value ← partValue part value
  let field ← q.table.fieldOf column
  return .part field part (q.partForm part) value

def clause (q : Query) : FilterCall → Except Fault Clause
  | .compare column operator value =>
    q.compareClause (.text column) (operator.elim .null .text) value
  | .isIn column values negated => q.memberClause (.text column) values negated
  | .notIn column values => q.memberClause (.text column) values true
  | .between column bounds => q.betweenClause (.text column) bounds
  | .datePart part column value => q.partClause part (.text column) value
  | .like column pattern => q.compareClause (.text column) (.text "like".toList) pattern
  | .ilike column pattern => q.compareClause (.text column) (.text "ilike".toList) pattern
  | .regexp column pattern => q.compareClause (.text column) (.text "regexp".toList) pattern

def add (q : Query) (clause : Clause) (connective : Text) : Except Fault Query := do
  let connective ← Connective.ofWord connective
  return { q with filters := q.filters ++ [⟨connective, clause⟩] }

def call (q : Query) (connective : Text) (c : FilterCall) : Except Fault Query := do
  q.add (← q.clause c) connective

def compare (q : Query) (column : Text) (operator : Option Text) (value : Operand)
    (connective : Text) : Except Fault Query :=
  q.call connective (.compare column operator value)

def count (q : Query) : Nat := q.filters.length

def shown (q : Query) : Text :=
  "ModelQuery(table=".toList ++ Quoted.encode q.table.name ++ ", dialect=".toList ++
    Quoted.encode q.dialect ++ ", wheres=".toList ++ Text.ofNat q.count ++ [')']

/-- What a row has to meet; nothing where there are no filters. -/
def whereClause (q : Query) : Option (Formula Clause) := Formula.ofEntries q.filters

end Query
end SearchBox
