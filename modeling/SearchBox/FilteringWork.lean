import SearchBox.Datum
import SearchBox.FilterMethod
import SearchBox.Filtering

/- Putting predicates on by the operations of a query, on the query itself. Each kind of predicates has two
   operations, one for each connective; a predicate that is refused may have been refused at any point of
   its operation, and ends the work. -/
namespace SearchBox

namespace Predicate

def method (p : Predicate) (kind : Kind) : Except Fault FilterMethod :=
  let column := Operand.text p.column
  let values := Operand.list p.operands
  let operator := p.comparator.elim .null .text
  let and := Operand.text "and".toList
  match kind, p.isOr with
  | .isIn, false => .ok (.isIn column values and (.int 0))
  | .isIn, true => .ok (.orIsIn column values)
  | .notIn, false => .ok (.notIn column values)
  | .notIn, true => .ok (.orNotIn column values)
  | .between, false => .ok (.between column values and)
  | .between, true => .ok (.orBetween column values)
  | .datePart, false => (p.operand 0).map fun value => .datePart p.partOperand column value and
  | .datePart, true => (p.operand 0).map fun value => .orDatePart p.partOperand column value
  | .like, false => (p.operand 0).map fun value => .like column value and
  | .like, true => (p.operand 0).map fun value => .orLike column value
  | .ilike, false => (p.operand 0).map fun value => .ilike column value and
  | .ilike, true => (p.operand 0).map fun value => .orIlike column value
  | .regexp, false => (p.operand 0).map fun value => .regexp column value and
  | .regexp, true => (p.operand 0).map fun value => .orRegexp column value
  | .basic, false => (p.operand 0).map fun value => .compare column operator value and
  | .basic, true => (p.operand 0).map fun value => .orCompare column operator value

end Predicate

namespace QueryWork

def putOn (debug : Bool) (p : Predicate) : QueryWork Unit := do
  let kind := p.resolvedKind (← get)
  if debug then let _ ← accept p.describe
  perform (← accept (p.method kind))

def putAllOnFrom (debug : Bool) (count : Nat) : List Predicate → QueryWork Nat
  | [] => return count
  | p :: rest => do
    putOn debug p
    putAllOnFrom debug (count + 1) rest

def putAllOn (debug : Bool) (ps : List Predicate) : QueryWork Nat := putAllOnFrom debug 0 ps

def matchColumns (debug : Bool) (names : List Text) (raw : Text) : QueryWork Datum := do
  for name in names do
    putOn debug (.ofPattern name ('%' :: raw ++ ['%']))
  return .null

end QueryWork
end SearchBox
