import SearchBox.Assoc
import SearchBox.Number.Double
import SearchBox.Text.Integer
import SearchBox.Text.Quoted

/- Plain values as they come from requests and settings. `written?` is the form a value has inside messages
   and other values, `plain?` the one it has on its own: there a text stands without quotes. A value that
   holds a number with too many digits has neither. -/
namespace SearchBox

inductive Datum where
  | null
  | bool (b : Bool)
  | int (n : Int)
  | real (x : Double)
  | text (t : Text)
  | list (items : List Datum)
  | record (fields : List (Text × Datum))
  deriving Inhabited

namespace Datum

def commaList (pieces : List Text) : Text := Text.join ", ".toList pieces

mutual

def written? : Datum → Option Text
  | .null => some "None".toList
  | .bool b => some (if b then "True".toList else "False".toList)
  | .int n => Integer.written? n
  | .real x => some x.shown
  | .text t => some (Quoted.encode t)
  | .list items => (writtenItems? items).map fun pieces => '[' :: commaList pieces ++ [']']
  | .record fields => (writtenFields? fields).map fun pieces => '\x7b' :: commaList pieces ++ ['\x7d']

def writtenItems? : List Datum → Option (List Text)
  | [] => some []
  | d :: ds => do return (← written? d) :: (← writtenItems? ds)

def writtenFields? : List (Text × Datum) → Option (List Text)
  | [] => some []
  | (key, d) :: rest => do
    return (Quoted.encode key ++ ": ".toList ++ (← written? d)) :: (← writtenFields? rest)

end

def plain? : Datum → Option Text
  | .text t => some t
  | d => d.written?

/-- The form of a value that was read from a file, where no number is too long. -/
def plain (d : Datum) : Text := d.plain?.getD []

def sort : Datum → Text
  | .null => "NoneType".toList
  | .bool _ => "bool".toList
  | .int _ => "int".toList
  | .real _ => "float".toList
  | .text _ => "str".toList
  | .list _ => "list".toList
  | .record _ => "dict".toList

def isText : Datum → Bool
  | .text _ => true
  | _ => false

def holds : Datum → Bool
  | .null => false
  | .bool b => b
  | .int n => n ≠ 0
  | .real (.finite _ m _) => m ≠ 0
  | .real _ => true
  | .text t => t ≠ []
  | .list items => !items.isEmpty
  | .record fields => !fields.isEmpty

def nonBlank? : Datum → Option Text
  | .text t => if t.trim = [] then none else some t.trim
  | _ => none

end Datum
end SearchBox
