import SearchBox.Query
import SearchBox.Proofs.CheckedWork

/- What one filter operation does to a query: it is refused, or it puts one filter behind those that are
   there. -/
namespace SearchBox

namespace Operator

theorem ofName?_like : ofName? (Text.lower "like".toList) = some (.matching .like) := by decide

theorem ofName?_ilike : ofName? (Text.lower "ilike".toList) = some (.matching .ilike) := by decide

theorem ofName?_regexp : ofName? (Text.lower "regexp".toList) = some (.matching .regexp) := by decide

end Operator

theorem DatePart.ofOperand_ok {name : Text} {part : DatePart} :
    ofOperand (.text name) = .ok part ↔ part.name = name := by
  constructor
  · intro asked
    rw [ofOperand] at asked
    cases found : ofName? name with
    | none => simp [found] at asked
    | some other =>
      rw [found] at asked
      cases asked
      simpa using List.find?_some found
  · rintro rfl
    cases part <;> rfl

namespace Query

theorem compareClause_of_operator (q : Query) {name : Text} {op : Operator}
    (known : Operator.ofName? name.lower = some op) (column value : Operand) :
    q.compareClause column (.text name) value =
      (q.table.fieldOf column).bind fun field => op.clause field value := by
  rw [compareClause, Operand.operatorName_text]
  dsimp only [bind, Except.bind]
  rw [known]

def append (q : Query) (e : Entry Clause) : Query := { q with filters := q.filters ++ [e] }

theorem add_ok {q next : Query} {clause : Clause} {word : Text}
    (added : q.add clause word = .ok next) :
    ∃ c, Connective.ofWord word = .ok c ∧ next = q.append ⟨c, clause⟩ := by
  rw [add] at added
  obtain ⟨c, known, added⟩ := bind_ok added
  cases added
  exact ⟨c, known, rfl⟩

theorem call_ok {q next : Query} {word : Text} {c : FilterCall} (called : q.call word c = .ok next) :
    ∃ connective clause, Connective.ofWord word = .ok connective ∧ q.clause c = .ok clause ∧
      next = q.append ⟨connective, clause⟩ := by
  rw [call] at called
  obtain ⟨clause, made, called⟩ := bind_ok called
  obtain ⟨connective, known, rfl⟩ := add_ok called
  exact ⟨connective, clause, known, made, rfl⟩

end Query
end SearchBox
