import SearchBox.Condition
import SearchBox.Token

/- From a search text to predicates. -/
namespace SearchBox

def compile (raw : Option Text) (map : ColumnMap) : List Predicate :=
  (SearchTerm.parseAll map (Token.tokenize (raw.getD []))).map SearchTerm.classify

end SearchBox
