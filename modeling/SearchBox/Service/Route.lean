import SearchBox.Text.Blank

/- Routes of the service. Paths are matched exactly; only a path whose double slashes are the one thing
   wrong with it is sent on to the right one. -/
namespace SearchBox

inductive Route where
  | grids
  | grid (name : Text)
  | rows (name : Text)
  | health
  /-- A file of the user interface, of which there are none here. -/
  | asset
  deriving DecidableEq, Repr

namespace Route

def ofSegments : List Text → Option Route
  | [[], first, second] =>
    if first ≠ "api".toList then (if first = "static".toList ∧ second ≠ [] then some .asset else none)
    else if second = "grids".toList then some .grids
    else if second = "health".toList then some .health
    else none
  | [] :: first :: second :: rest =>
    if first = "static".toList then (if second = [] then none else some .asset)
    else if first ≠ "api".toList ∨ second ≠ "grids".toList then none
    else match rest with
      | [c :: name] => some (.grid (c :: name))
      | [c :: name, last] => if last = "rows".toList then some (.rows (c :: name)) else none
      | _ => none
  | _ => none

def ofPath (path : Text) : Option Route := ofSegments (Text.splitAt '/' path)

def mergeSlashes : Text → Text
  | '/' :: '/' :: rest => '/' :: mergeSlashes rest
  | c :: rest => c :: mergeSlashes rest
  | [] => []

end Route
end SearchBox
