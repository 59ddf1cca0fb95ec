import SearchBox.Column

/- Terms of a search. A term is written as a key, a colon and a condition; a bar before the key asks for an
   alternative instead of a further requirement. -/
namespace SearchBox

structure SearchTerm where
  column : Text
  condition : Text
  isOr : Bool
  deriving DecidableEq, Repr

namespace SearchTerm

inductive Dropped where
  | unbound (token : Text)
  | unknownColumn (key token : Text)
  deriving DecidableEq, Repr

def Dropped.message : Dropped → Text
  | .unbound token => "Dropping token without a column binding: ".toList ++ Quoted.encode token
  | .unknownColumn key token =>
    "Dropping token for unknown column ".toList ++ Quoted.encode key ++ ": ".toList ++ Quoted.encode token

def stripBar : Text → Text × Bool
  | '|' :: key => (key, true)
  | key => (key, false)

def parse (map : ColumnMap) (token : Text) : Except Dropped SearchTerm :=
  match token.cutAt? ':' with
  | none => .error (.unbound token)
  | some (head, condition) =>
    let (key, isOr) := stripBar head
    match map.resolve key with
    | none => .error (.unknownColumn key token)
    | some column => .ok ⟨column, condition, isOr⟩

def parse? (map : ColumnMap) (token : Text) : Option SearchTerm := (parse map token).toOption

def parseAll (map : ColumnMap) (tokens : List Text) : List SearchTerm := tokens.filterMap (parse? map)

end SearchTerm
end SearchBox
