import SearchBox.Assoc
import SearchBox.Predicate
import SearchBox.Table

/- Clauses: single filters on a field, as a query holds them. -/
namespace SearchBox

inductive Comparison where
  | equal
  | notEqual
  | greater
  | greaterEqual
  | less
  | lessEqual
  deriving DecidableEq, Repr

inductive MatchStyle where
  | like
  | ilike
  | regexp
  deriving DecidableEq, Repr

/-- Ways of taking a part out of a moment: as a number, through a function on its text, or by a
    conversion to a date or a time. -/
inductive PartForm where
  | number
  | function
  | conversion
  deriving DecidableEq, Repr

inductive Clause where
  | compare (field : Field) (comparison : Comparison) (value : Operand)
  | matching (field : Field) (style : MatchStyle) (pattern : Operand)
  | member (field : Field) (negated : Bool) (values : List Operand)
  | between (field : Field) (low high : Operand)
  | part (field : Field) (part : DatePart) (form : PartForm) (value : Operand)
  deriving DecidableEq, Repr

inductive Operator where
  | compare (comparison : Comparison)
  | matching (style : MatchStyle)
  deriving DecidableEq, Repr

namespace Operator

def ofName? (name : Text) : Option Operator :=
  Assoc.find?
    [("=".toList, .compare .equal), ("!=".toList, .compare .notEqual),
      ("<>".toList, .compare .notEqual), (">".toList, .compare .greater),
      (">=".toList, .compare .greaterEqual), ("<".toList, .compare .less),
      ("<=".toList, .compare .lessEqual), ("like".toList, .matching .like),
      ("ilike".toList, .matching .ilike), ("regexp".toList, .matching .regexp)] name

def takesNull : Operator → Bool
  | .compare .equal | .compare .notEqual | .matching .regexp => true
  | _ => false

def clause (op : Operator) (field : Field) (value : Operand) : Except Fault Clause :=
  if value = .null ∧ op.takesNull = false then .error .nullOperand
  else match op with
    | .compare comparison => .ok (.compare field comparison value)
    | .matching style => .ok (.matching field style value)

end Operator
end SearchBox
