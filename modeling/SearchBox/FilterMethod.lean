import SearchBox.Query

/- The operations by which callers put filters on a query. Each takes whatever values it is given; the ones
   for an alternative have a connective of their own. An operation works on the query itself and may be
   refused at any point: what it did to the query before that point is not taken back. -/
namespace SearchBox

inductive FilterMethod where
  | compare (column operator value connective : Operand)
  | orCompare (column operator value : Operand)
  | isIn (column values connective negated : Operand)
  | orIsIn (column values : Operand)
  | notIn (column values : Operand)
  | orNotIn (column values : Operand)
  | between (column bounds connective : Operand)
  | orBetween (column bounds : Operand)
  | datePart (part column value connective : Operand)
  | orDatePart (part column value : Operand)
  | like (column pattern connective : Operand)
  | orLike (column pattern : Operand)
  | ilike (column pattern connective : Operand)
  | orIlike (column pattern : Operand)
  | regexp (column pattern connective : Operand)
  | orRegexp (column pattern : Operand)
  deriving DecidableEq, Repr

/-- Work on a query; a refusal leaves the query as far as the work has come. -/
abbrev QueryWork := EStateM Fault Query

namespace QueryWork

def accept {α : Type} : Except Fault α → QueryWork α
  | .ok a => pure a
  | .error fault => throw fault

def add (clause : Clause) (connective : Operand) : QueryWork Unit := do
  let word ← accept connective.word
  set (← accept ((← get).add clause word))

def addFrom (clause : Query → Except Fault Clause) (connective : Operand) : QueryWork Unit := do
  add (← accept (clause (← get))) connective

def compare (column operator value connective : Operand) : QueryWork Unit :=
  addFrom (·.compareClause column operator value) connective

def isIn (column values connective negated : Operand) : QueryWork Unit :=
  addFrom (·.memberClause column values negated.holds) connective

def between (column bounds connective : Operand) : QueryWork Unit :=
  addFrom (·.betweenClause column bounds) connective

def datePart (part column value connective : Operand) : QueryWork Unit :=
  addFrom (·.partClause part column value) connective

def like (column pattern connective : Operand) : QueryWork Unit :=
  compare column (.text "like".toList) pattern connective

def ilike (column pattern connective : Operand) : QueryWork Unit :=
  compare column (.text "ilike".toList) pattern connective

def regexp (column pattern connective : Operand) : QueryWork Unit :=
  compare column (.text "regexp".toList) pattern connective

def perform : FilterMethod → QueryWork Unit
  | .compare column operator value connective => compare column operator value connective
  | .orCompare column operator value => compare column operator value (.text "or".toList)
  | .isIn column values connective negated => isIn column values connective negated
  | .orIsIn column values => isIn column values (.text "or".toList) (.int 0)
  | .notIn column values => isIn column values (.text "and".toList) (.int 1)
  | .orNotIn column values => isIn column values (.text "or".toList) (.int 1)
  | .between column bounds connective => between column bounds connective
  | .orBetween column bounds => between column bounds (.text "or".toList)
  | .datePart part column value connective => datePart part column value connective
  | .orDatePart part column value => datePart part column value (.text "or".toList)
  | .like column pattern connective => like column pattern connective
  | .orLike column pattern => like column pattern (.text "or".toList)
  | .ilike column pattern connective => ilike column pattern connective
  | .orIlike column pattern => ilike column pattern (.text "or".toList)
  | .regexp column pattern connective => regexp column pattern connective
  | .orRegexp column pattern => regexp column pattern (.text "or".toList)

end QueryWork

namespace Query

def step (q : Query) (m : FilterMethod) : Query × Option Fault :=
  match (QueryWork.perform m).run q with
  | .ok _ next => (next, none)
  | .error fault next => (next, some fault)

/-- Operations one after the other, with the refusal of each; a refused one does not keep the others from
    being tried. -/
def run (q : Query) : List FilterMethod → Query × List (Option Fault)
  | [] => (q, [])
  | m :: rest =>
    let (next, refusal) := q.step m
    let (last, refusals) := next.run rest
    (last, refusal :: refusals)

end Query
end SearchBox
