import SearchBox.SearchTerm
import SearchBox.Predicate

/- Shapes of conditions. The shapes are tried in a fixed order at every position of the condition, and
   the last one fits everything. Only patterns may extend over several lines. -/
namespace SearchBox

inductive Shape where
  | set (negated : Bool) (items : Text)
  | range (low high : Text)
  | datePart (part : DatePart) (value : Text)
  | pattern (text : Text)
  | regexp (text : Text)
  | basic (operator : Option Text) (value : Text)
  deriving DecidableEq, Repr

namespace Shape

def name : Shape → Text
  | .set .. => "set".toList
  | .range .. => "range".toList
  | .datePart .. => "date_part".toList
  | .pattern .. => "pattern".toList
  | .regexp .. => "regexp".toList
  | .basic .. => "basic".toList

def line (t : Text) : Text := t.takeWhile (· ≠ '\n')

def beforeLast? (c : Char) (t : Text) : Option Text :=
  match t.reverse.dropWhile (· ≠ c) with
  | [] => none
  | _ :: before => some before.reverse

/-- The first success of `read` on the text and its shorter and shorter tails. -/
def search {α : Type} (read : Text → Option α) : Text → Option α
  | [] => read []
  | c :: rest => (read (c :: rest)).orElse fun _ => search read rest

/-- What stands between an opening parenthesis, already read, and the last closing one of its line. -/
def items? (t : Text) : Option Text := (beforeLast? ')' (line t)).filter (· ≠ [])

def setAt? : Text → Option Shape
  | '!' :: '(' :: rest => (items? rest).map (.set true)
  | '(' :: rest => (items? rest).map (.set false)
  | _ => none

def rangeAt? : Text → Option Shape
  | '[' :: rest => do
    let (low, tail) ← (line rest).cutAt? ','
    let (high, _) ← tail.cutAt? ']'
    return .range low high
  | _ => none

def datePartAt? (t : Text) : Option Shape :=
  DatePart.all.findSome? fun part =>
    let head := part.name ++ [',']
    if head.isPrefixOf t then some (.datePart part (line (t.drop head.length))) else none

def patternAt? : Text → Option Shape
  | '%' :: rest =>
    let inner := rest.takeWhile (· ≠ '%')
    if inner ≠ [] ∧ '%' ∈ rest then some (.pattern ('%' :: inner ++ ['%'])) else none
  | _ => none

def regexpAt? : Text → Option Shape
  | '/' :: rest => (beforeLast? '/' (line rest)).map .regexp
  | _ => none

/-- Longer operators come before those they begin with. -/
def operators : List Text :=
  [">=".toList, ">".toList, "<=".toList, "<".toList, "!=".toList, "%".toList]

def basicOf (t : Text) : Shape :=
  match operators.find? (·.isPrefixOf t) with
  | some op => .basic (some op) (line (t.drop op.length))
  | none => .basic none (line t)

def ofCondition (condition : Text) : Shape :=
  ((search setAt? condition).or <| (search rangeAt? condition).or <|
    (search datePartAt? condition).or <| (search patternAt? condition).or <|
      search regexpAt? condition).getD (basicOf condition)

end Shape

def nullWord : Text := "NULL".toList

/-- The bare null word is null; a value between double quotes loses them. -/
def Operand.ofValue (value : Text) : Operand :=
  if value = nullWord then .null
  else if value.head? = some '"' ∧ value.getLast? = some '"' then .text (value.drop 1).dropLast
  else .text value

def Operand.ofItem (item : Text) : Operand := if item = nullWord then .null else .text item

theorem Operand.ofValue_percent (rest : Text) : ofValue ('%' :: rest) = .text ('%' :: rest) := by
  have notNull : '%' :: rest ≠ nullWord := by
    intro same
    exact absurd (List.cons.inj same).1 (by decide)
  rw [ofValue, if_neg notNull, if_neg]
  simp

def Shape.predicate (t : SearchTerm) : Shape → Predicate
  | .set negated items =>
    { column := t.column
      kind := if negated then .notIn else .isIn
      operands := (items.splitAt ',').map Operand.ofItem
      isOr := t.isOr }
  | .range low high =>
    { column := t.column, kind := .between, operands := [.text low, .text high], isOr := t.isOr }
  | .datePart part value =>
    { column := t.column, kind := .datePart, operands := [.text value], isOr := t.isOr,
      datePart := some part }
  | .pattern text =>
    { column := t.column, kind := .like, operands := [.text text], isOr := t.isOr }
  | .regexp text =>
    { column := t.column, kind := .regexp, operands := [.ofValue text], isOr := t.isOr }
  | .basic op value =>
    let (comparator, value) :=
      if op = some ['%'] then ("like".toList, '%' :: value ++ ['%'])
      else (op.getD "=".toList, value)
    { column := t.column, kind := .basic, operands := [.ofValue value], isOr := t.isOr,
      comparator := some comparator }

namespace SearchTerm

def classify (t : SearchTerm) : Predicate := (Shape.ofCondition t.condition).predicate t

theorem classify_column (t : SearchTerm) : t.classify.column = t.column := by
  unfold classify Shape.predicate
  split <;> rfl

theorem classify_isOr (t : SearchTerm) : t.classify.isOr = t.isOr := by
  unfold classify Shape.predicate
  split <;> rfl

end SearchTerm

end SearchBox
