import SearchBox.Text.Integer
import SearchBox.Text.Quoted

/- Values that callers hand to the operations of a query. A filter compares a column with a single value or
   with the values of a list, and a list may hold further lists. -/
namespace SearchBox

inductive Operand where
  | null
  | text (t : Text)
  | int (n : Int)
  | list (items : List Operand)
  deriving Repr, Inhabited

namespace Operand

mutual

def decEq : (a b : Operand) → Decidable (a = b)
  | .null, .null => .isTrue rfl
  | .text s, .text t => if same : s = t then .isTrue (by rw [same]) else .isFalse (by simp [same])
  | .int m, .int n => if same : m = n then .isTrue (by rw [same]) else .isFalse (by simp [same])
  | .list as, .list bs =>
    match decEqItems as bs with
    | .isTrue same => .isTrue (by rw [same])
    | .isFalse other => .isFalse (by simp [other])
  | .null, .text _ | .null, .int _ | .null, .list _ | .text _, .null | .text _, .int _
  | .text _, .list _ | .int _, .null | .int _, .text _ | .int _, .list _ | .list _, .null
  | .list _, .text _ | .list _, .int _ => .isFalse nofun

def decEqItems : (as bs : List Operand) → Decidable (as = bs)
  | [], [] => .isTrue rfl
  | [], _ :: _ | _ :: _, [] => .isFalse nofun
  | a :: as, b :: bs =>
    match decEq a b, decEqItems as bs with
    | .isTrue same, .isTrue rest => .isTrue (by rw [same, rest])
    | .isFalse other, _ => .isFalse (by simp [other])
    | _, .isFalse other => .isFalse (by simp [other])

end

/-- Texts are compared without the recursion, so that comparisons of closed values are decided quickly. -/
instance : DecidableEq Operand
  | .text s, .text t => decidable_of_iff (s = t) (by simp)
  | a, b => decEq a b

mutual

/-- The form of a value inside other texts, unless a number in it is too long to be written. -/
def written? : Operand → Option Text
  | .null => some "None".toList
  | .text t => some (Quoted.encode t)
  | .int n => Integer.written? n
  | .list items => (writtenItems? items).map fun pieces => '[' :: Text.join ", ".toList pieces ++ [']']

def writtenItems? : List Operand → Option (List Text)
  | [] => some []
  | item :: rest => do return (← written? item) :: (← writtenItems? rest)

end

def sort : Operand → Text
  | .null => "NoneType".toList
  | .text _ => "str".toList
  | .int _ => "int".toList
  | .list _ => "list".toList

def isList : Operand → Bool
  | .list _ => true
  | _ => false

def holds : Operand → Bool
  | .null => false
  | .text t => t ≠ []
  | .int n => n ≠ 0
  | .list items => !items.isEmpty

end Operand
end SearchBox
