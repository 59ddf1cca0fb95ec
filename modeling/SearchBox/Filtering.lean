import SearchBox.Journal.Record
import SearchBox.Query

/- Putting predicates onto a query. Predicates go on in order and the first refusal ends the work; what
   went on before it stays. -/
namespace SearchBox

/-- The query after an operation that may have stopped half way, and its result. -/
structure Outcome (α : Type) where
  query : Query
  result : Except Fault α

namespace Predicate

def resolvedKind (p : Predicate) (q : Query) : Kind :=
  if p.kind = .like ∧ q.prefersIlike then .ilike else p.kind

def connective (p : Predicate) : Text := if p.isOr then "or".toList else "and".toList

def partOperand (p : Predicate) : Operand :=
  match p.datePart with
  | none => .null
  | some part => .text part.name

def filterCall (p : Predicate) (q : Query) : Except Fault FilterCall :=
  match p.resolvedKind q with
  | .isIn => .ok (.isIn p.column (.list p.operands) false)
  | .notIn => .ok (.notIn p.column (.list p.operands))
  | .between => .ok (.between p.column (.list p.operands))
  | .datePart => (p.operand 0).map fun value => .datePart p.partOperand p.column value
  | .like => (p.operand 0).map fun value => .like p.column value
  | .ilike => (p.operand 0).map fun value => .ilike p.column value
  | .regexp => (p.operand 0).map fun value => .regexp p.column value
  | .basic => (p.operand 0).map fun value => .compare p.column p.comparator value

def ofPattern (column pattern : Text) : Predicate :=
  { column := column, kind := .like, operands := [.text pattern], isOr := true }

end Predicate

namespace Query

def filterBy (q : Query) (p : Predicate) : Except Fault Query := do
  let c ← p.filterCall q
  q.call p.connective c

/-- While debugging, a predicate is described before it is put on, which may fail by itself. -/
def filterByLogged (debug : Bool) (q : Query) (p : Predicate) : Logged (Except Fault Query) :=
  if debug then
    match p.describe with
    | .error fault => pure (.error fault)
    | .ok words => do
      Logged.debug "quicksearch.emitter"
        ("Emitting ".toList ++ words ++ " as ".toList ++ (p.resolvedKind q).name)
      return q.filterBy p
  else pure (q.filterBy p)

def filterByFrom (debug : Bool) (count : Nat) (q : Query) : List Predicate → Logged (Outcome Nat)
  | [] => pure ⟨q, .ok count⟩
  | p :: rest => do
    match ← q.filterByLogged debug p with
    | .error fault => return ⟨q, .error fault⟩
    | .ok next => filterByFrom debug (count + 1) next rest

def filterByAll (debug : Bool) (q : Query) (ps : List Predicate) : Logged (Outcome Nat) :=
  q.filterByFrom debug 0 ps

end Query
end SearchBox
