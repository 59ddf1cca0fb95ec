import SearchBox.Datum
import SearchBox.Fault

/- The name of the request parameter that holds the search text. -/
namespace SearchBox

structure SearchKey where
  text : Text
  deriving DecidableEq, Repr

namespace SearchKey

def standard : SearchKey := ⟨"__search__".toList⟩

def make (key : Datum) : Except Fault SearchKey :=
  match key.nonBlank? with
  | some t => .ok ⟨t⟩
  | none => .error .blankSearchKey

def shown (k : SearchKey) : Text :=
  "QuickSearchConfig(search_key=".toList ++ Quoted.encode k.text ++ [')']

/-- The search text of a request. A missing, null or empty value means that nothing is searched, and any other
    value is searched for in the form it has as a text. -/
def read (k : SearchKey) (params : Assoc Datum) : Except Fault (Option Text) :=
  match params.find? k.text with
  | none | some .null | some (.text []) => .ok none
  | some d => (Fault.orUnprintable d.plain?).map some

end SearchKey
end SearchBox
