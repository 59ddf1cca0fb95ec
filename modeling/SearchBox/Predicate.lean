import SearchBox.Fault

/- Predicates: one condition on one column, as a search text asks for it. -/
namespace SearchBox

inductive DatePart where
  | date
  | time
  | day
  | month
  | year
  deriving DecidableEq, Repr

namespace DatePart

/-- In the order in which a condition is searched for them. -/
def all : List DatePart := [.date, .time, .day, .month, .year]

def name : DatePart → Text
  | .date => "date".toList
  | .time => "time".toList
  | .day => "day".toList
  | .month => "month".toList
  | .year => "year".toList

def ofName? (name : Text) : Option DatePart := all.find? (·.name = name)

def ofOperand : Operand → Except Fault DatePart
  | .text name =>
    match ofName? name with
    | some part => .ok part
    | none => .error (.unknownPart (.text name))
  | given => .error (.unknownPart given)

def isNumeric : DatePart → Bool
  | .day | .month | .year => true
  | .date | .time => false

end DatePart

inductive Kind where
  | like
  | ilike
  | isIn
  | notIn
  | between
  | datePart
  | regexp
  | basic
  deriving DecidableEq, Repr

namespace Kind

def all : List Kind := [.like, .ilike, .isIn, .notIn, .between, .datePart, .regexp, .basic]

def name : Kind → Text
  | .like => "like".toList
  | .ilike => "ilike".toList
  | .isIn => "in".toList
  | .notIn => "not_in".toList
  | .between => "between".toList
  | .datePart => "date_part".toList
  | .regexp => "regexp".toList
  | .basic => "basic".toList

def ofName (name : Text) : Except Fault Kind :=
  match all.find? (·.name = name) with
  | some kind => .ok kind
  | none => .error (.unknownKind name)

end Kind

structure Predicate where
  column : Text
  kind : Kind
  operands : List Operand
  isOr : Bool := false
  comparator : Option Text := none
  datePart : Option DatePart := none
  deriving DecidableEq, Repr

namespace Predicate

def operand (p : Predicate) (index : Nat) : Except Fault Operand :=
  match p.operands[index]? with
  | some value => .ok value
  | none => .error .missingOperand

def writtenOperand (p : Predicate) (index : Nat) : Except Fault Text := do
  Fault.orUnprintable (← p.operand index).written?

def connectiveWord (p : Predicate) : Text := if p.isOr then "OR ".toList else "AND ".toList

/-- The predicate in words. It fails where an operand or the date part it has to name is missing, or an
    operand cannot be written. -/
def describe (p : Predicate) : Except Fault Text :=
  let head := p.connectiveWord ++ p.column
  let infixed (word : Text) : Except Fault Text := do
    return head ++ ' ' :: word ++ ' ' :: (← p.writtenOperand 0)
  let listed (word : Text) : Except Fault Text := do
    return head ++ word ++ (← Fault.orUnprintable (Operand.list p.operands).written?)
  match p.kind with
  | .basic => infixed (p.comparator.getD "None".toList)
  | .datePart =>
    match p.datePart with
    | none => .error .missingPart
    | some part => do
      return p.connectiveWord ++ part.name ++ '(' :: p.column ++ ") = ".toList ++ (← p.writtenOperand 0)
  | .between => do
    let low ← p.writtenOperand 0
    let high ← p.writtenOperand 1
    return head ++ " BETWEEN ".toList ++ low ++ " AND ".toList ++ high
  | .isIn => listed " IN ".toList
  | .notIn => listed " NOT IN ".toList
  | .like => infixed "LIKE".toList
  | .ilike => infixed "ILIKE".toList
  | .regexp => infixed "REGEXP".toList

end Predicate
end SearchBox
