import SearchBox.Proofs.CompiledForm
import SearchBox.Proofs.QuotedTexts

/- A description identifies its predicate among all that search texts ask for on one column. The connective is
   read off first, then the word behind the column, which tells the kind and the comparator, and the operands
   last. Only parts of moments are written in front of the column, and the column itself may be any text. -/
namespace SearchBox

namespace Kind

def Takes (operands : List Operand) : Kind → Prop
  | .isIn | .notIn => True
  | .between => ∃ low high, operands = [low, high]
  | .like | .ilike | .datePart | .regexp | .basic => ∃ value, operands = [value]

def word (comparator : Option Text) : Kind → Text
  | .basic => comparator.getD "None".toList
  | .between => "BETWEEN".toList
  | .isIn => "IN".toList
  | .notIn => "NOT".toList
  | .like => "LIKE".toList
  | .ilike => "ILIKE".toList
  | .regexp => "REGEXP".toList
  | .datePart => []

def operandText (operands : List Operand) : Kind → Text
  | .isIn => Operand.bracketed operands
  | .notIn => "IN ".toList ++ Operand.bracketed operands
  | .between => Text.join " AND ".toList (operands.map Operand.words)
  | .like | .ilike | .datePart | .regexp | .basic => Text.join [] (operands.map Operand.words)

def styles : List (Kind × Option Text) :=
  [(.isIn, none), (.notIn, none), (.between, none), (.like, none), (.regexp, none)] ++
    comparators.map fun op => (.basic, some op)

theorem plain_style : ∀ kind ∈ [isIn, notIn, between, like, regexp], (kind, none) ∈ styles := by decide

theorem basic_style {op : Text} (known : op ∈ comparators) : (basic, some op) ∈ styles :=
  List.mem_append_right _ (List.mem_map_of_mem known)

theorem word_noBlank : ∀ style ∈ styles, ' ' ∉ style.1.word style.2 := by decide

theorem word_inj : ∀ style ∈ styles, ∀ other ∈ styles,
    style.1.word style.2 = other.1.word other.2 → style = other := by decide

theorem operandText_inj {kind : Kind} {as bs : List Operand} (first : ∀ v ∈ as, v.Spelled)
    (second : ∀ v ∈ bs, v.Spelled) (takes : kind.Takes as) (alsoTakes : kind.Takes bs)
    (same : kind.operandText as = kind.operandText bs) : as = bs := by
  cases kind with
  | isIn => exact Operand.bracketed_inj first second same
  | notIn => exact Operand.bracketed_inj first second (List.append_cancel_left same)
  | between =>
    obtain ⟨low, high, rfl⟩ := takes
    obtain ⟨start, finish, rfl⟩ := alsoTakes
    simp only [List.forall_mem_cons] at first second
    simp only [operandText, List.map_cons, List.map_nil, Text.join, List.append_assoc] at same
    obtain ⟨rfl, rest⟩ := first.1.words_append_inj second.1 same
    rw [first.2.1.words_inj second.2.1 (List.append_cancel_left rest)]
  | like | ilike | datePart | regexp | basic =>
    obtain ⟨a, rfl⟩ := takes
    obtain ⟨b, rfl⟩ := alsoTakes
    rw [(List.forall_mem_cons.mp first).1.words_inj (List.forall_mem_cons.mp second).1 same]

end Kind

namespace DatePart

theorem name_inj {part other : DatePart} (same : part.name = other.name) : part = other := by
  revert same
  cases part <;> cases other <;> decide

theorem name_plain (part : DatePart) : '(' ∉ part.name ∧ ' ' ∉ part.name := by
  cases part <;> decide

end DatePart

namespace Text

/-- A text that comes again behind a name has no character behind it that is not in the name. -/
theorem mem_of_shifted {c : Char} {name column r u : Text} (some : name ≠ [])
    (same : column ++ c :: r = name ++ (column ++ u)) : c ∈ name := by
  induction size : column.length using Nat.strongRecOn generalizing column with
  | ind n ih =>
    rcases List.append_eq_append_iff.mp same with ⟨rest, rfl, front⟩ | ⟨rest, rfl, behind⟩
    · -- the name is not shorter than the column, and the character is in what the name has more
      have filled : rest ++ column ≠ [] := by simpa [and_comm] using some
      obtain ⟨x, more, split⟩ := List.exists_cons_of_ne_nil filled
      rw [← List.append_assoc, split] at front
      have member : c ∈ rest ++ column := by
        rw [split, (List.cons.inj front).1]
        exact List.mem_cons_self
      simpa [or_comm] using member
    · have shorter : rest.length < n := by
        have := List.length_pos_iff.mpr some
        rw [← size, List.length_append]
        omega
      rw [List.append_assoc] at behind
      exact ih rest.length shorter behind.symm rfl

end Text

namespace Predicate
variable {p q : Predicate} {r u : Text}

theorem connectiveWord_append_inj (same : p.connectiveWord ++ r = q.connectiveWord ++ u) :
    p.isOr = q.isOr ∧ r = u := by
  unfold connectiveWord at same
  cases first : p.isOr <;> cases second : q.isOr <;> simp_all

namespace Compiled

theorem spelled (compiled : p.Compiled) : ∀ v ∈ p.operands, v.Spelled := by
  have ofLine {v : Operand} (line : v.OneLine) : v.Spelled := by
    cases v with
    | null | text => trivial
    | int | list => exact line
  cases compiled with
  | set _ _ _ _ _ fits => exact fun v member => ofLine (fits v member).1
  | regexp _ _ line => simpa using ofLine line
  | compare _ _ _ _ line => simpa using ofLine line
  | _ => simp [Operand.Spelled]

theorem single_written (compiled : p.Compiled) {v : Operand} (single : p.operands = [v]) :
    p.writtenOperand 0 = .ok v.words := by
  have written := (compiled.spelled v (by simp [single])).written?
  rw [writtenOperand, operand, single]
  exact Fault.orUnprintable_ok.mpr written

theorem takes (compiled : p.Compiled) : p.kind.Takes p.operands := by
  cases compiled with
  | set _ _ negated => cases negated <;> trivial
  | between => exact ⟨_, _, rfl⟩
  | _ => exact ⟨_, rfl⟩

theorem style (compiled : p.Compiled) (behind : p.kind ≠ .datePart) :
    (p.kind, p.comparator) ∈ Kind.styles := by
  cases compiled with
  | set _ _ negated => cases negated <;> exact Kind.plain_style _ (by simp)
  | datePart => exact absurd rfl behind
  | compare _ _ known => exact Kind.basic_style known
  | contains => exact Kind.basic_style (by decide)
  | _ => exact Kind.plain_style _ (by simp)

theorem comparator_none (compiled : p.Compiled) (other : p.kind ≠ .basic) : p.comparator = none := by
  cases compiled with
  | compare | contains => exact absurd rfl other
  | _ => rfl

theorem datePart_none (compiled : p.Compiled) (behind : p.kind ≠ .datePart) : p.datePart = none := by
  cases compiled with
  | datePart => exact absurd rfl behind
  | _ => rfl

theorem describe_behind (compiled : p.Compiled) (behind : p.kind ≠ .datePart) :
    p.describe = .ok (p.connectiveWord ++
      (p.column ++ ' ' :: (p.kind.word p.comparator ++ ' ' :: p.kind.operandText p.operands))) := by
  have regroup (a b c d e : Text) : a ++ b ++ c ++ d ++ e = a ++ (b ++ (c ++ d ++ e)) := by
    simp only [List.append_assoc]
  rw [← List.append_assoc]
  have spelled := compiled.spelled
  have value {v : Operand} (single : p.operands = [v]) := compiled.single_written single
  cases compiled with
  | datePart => exact absurd rfl behind
  | set _ _ negated =>
    have list := Operand.written?_list spelled
    cases negated <;> simp only [describe, list] <;> exact congrArg Except.ok (List.append_assoc _ _ _)
  | between => exact congrArg Except.ok (regroup _ _ _ _ _)
  | regexp | compare =>
    simp only [describe, value rfl]
    exact congrArg Except.ok (List.append_assoc _ _ _)
  | _ => exact congrArg Except.ok (List.append_assoc _ _ _)

theorem describe_moment (compiled : p.Compiled) (kind : p.kind = .datePart) :
    ∃ part value, p.datePart = some part ∧ p.operands = [value] ∧
      p.describe = .ok (p.connectiveWord ++
        (part.name ++ '(' :: (p.column ++ (") = ".toList ++ value.words)))) := by
  have value {v : Operand} (single : p.operands = [v]) := compiled.single_written single
  cases compiled with
  | datePart _ _ part =>
    refine ⟨part, _, rfl, rfl, ?_⟩
    simp only [describe, value rfl, List.append_assoc, List.cons_append]
    rfl
  | set _ _ negated => cases negated <;> cases kind
  | _ => cases kind

end Compiled

theorem eq_of_parts (column : p.column = q.column) (kind : p.kind = q.kind)
    (operands : p.operands = q.operands) (isOr : p.isOr = q.isOr)
    (comparator : p.comparator = q.comparator) (datePart : p.datePart = q.datePart) : p = q := by
  cases p
  cases q
  simp_all

theorem Compiled.describe_ne (first : p.Compiled) (second : q.Compiled) (column : p.column = q.column)
    (behind : p.kind ≠ .datePart) (moment : q.kind = .datePart) : p.describe ≠ q.describe := by
  intro same
  obtain ⟨part, value, _, _, described⟩ := second.describe_moment moment
  rw [first.describe_behind behind, described, column] at same
  have bodies := (connectiveWord_append_inj (Except.ok.inj same)).2
  have shifted : q.column ++ ' ' :: (p.kind.word p.comparator ++ ' ' :: p.kind.operandText p.operands) =
      (part.name ++ ['(']) ++ (q.column ++ (") = ".toList ++ value.words)) := by
    rw [bodies, List.append_assoc]
    rfl
  have member := Text.mem_of_shifted (by simp) shifted
  simp [part.name_plain.2] at member

theorem Compiled.describe_moment_inj (first : p.Compiled) (second : q.Compiled) (column : p.column = q.column)
    (moment : p.kind = .datePart) (alsoMoment : q.kind = .datePart) (same : p.describe = q.describe) :
    p = q := by
  obtain ⟨part, value, named, single, described⟩ := first.describe_moment moment
  obtain ⟨other, again, alsoNamed, alsoSingle, alsoDescribed⟩ := second.describe_moment alsoMoment
  rw [described, alsoDescribed, column] at same
  obtain ⟨connectives, bodies⟩ := connectiveWord_append_inj (Except.ok.inj same)
  obtain ⟨names, rests⟩ := Text.cut_unique part.name_plain.1 other.name_plain.1 bodies
  have words : value.words = again.words := List.append_cancel_left (List.append_cancel_left rests)
  have values : value = again :=
    (first.spelled value (by simp [single])).words_inj (second.spelled again (by simp [alsoSingle])) words
  refine eq_of_parts column (moment.trans alsoMoment.symm) ?_ connectives ?_ ?_
  · rw [single, alsoSingle, values]
  · rw [first.comparator_none (by simp [moment]), second.comparator_none (by simp [alsoMoment])]
  · rw [named, alsoNamed, DatePart.name_inj names]

theorem Compiled.describe_behind_inj (first : p.Compiled) (second : q.Compiled) (column : p.column = q.column)
    (behind : p.kind ≠ .datePart) (alsoBehind : q.kind ≠ .datePart) (same : p.describe = q.describe) :
    p = q := by
  rw [first.describe_behind behind, second.describe_behind alsoBehind, column] at same
  obtain ⟨connectives, bodies⟩ := connectiveWord_append_inj (Except.ok.inj same)
  have style := first.style behind
  have alsoStyle := second.style alsoBehind
  obtain ⟨words, rests⟩ := Text.cut_unique (Kind.word_noBlank _ style) (Kind.word_noBlank _ alsoStyle)
    (List.cons.inj (List.append_cancel_left bodies)).2
  obtain ⟨kind, comparator⟩ := Prod.mk.inj (Kind.word_inj _ style _ alsoStyle words)
  have takes := first.takes
  rw [kind] at rests takes
  refine eq_of_parts column kind ?_ connectives comparator ?_
  · exact Kind.operandText_inj first.spelled second.spelled takes second.takes rests
  · rw [first.datePart_none behind, second.datePart_none alsoBehind]

theorem Compiled.describe_inj (first : p.Compiled) (second : q.Compiled) (column : p.column = q.column)
    (same : p.describe = q.describe) : p = q := by
  by_cases moment : p.kind = .datePart
  · by_cases alsoMoment : q.kind = .datePart
    · exact first.describe_moment_inj second column moment alsoMoment same
    · exact absurd same.symm (second.describe_ne first column.symm alsoMoment moment)
  · by_cases alsoMoment : q.kind = .datePart
    · exact absurd same (first.describe_ne second column moment alsoMoment)
    · exact first.describe_behind_inj second column moment alsoMoment same

end Predicate

/-- Predicates that search texts ask for on one column are described in different words if they are
    different at all, whatever the column, the texts and the maps are. -/
theorem describe_identifies {raw again : Option Text} {map others : ColumnMap} {p q : Predicate}
    (asked : p ∈ compile raw map) (alsoAsked : q ∈ compile again others) (column : p.column = q.column)
    (same : p.describe = q.describe) : p = q :=
  (compiled_of_mem_compile asked).1.describe_inj (compiled_of_mem_compile alsoAsked).1 column same

theorem describe_identifies_ranges :
    let map : ColumnMap := [("age".toList, "age".toList)]
    let p := SearchTerm.classify ⟨"age".toList, "[1,2]".toList, false⟩
    let q := SearchTerm.classify ⟨"age".toList, "x[1,2]y".toList, false⟩
    p ∈ compile (some "age:[1,2]".toList) map ∧ q ∈ compile (some "age:x[1,2]y".toList) map ∧
      p.column = q.column ∧ p.describe = q.describe ∧ p = q := by
  intro map p q
  have asked : p ∈ compile (some "age:[1,2]".toList) map := by decide
  have alsoAsked : q ∈ compile (some "age:x[1,2]y".toList) map := by decide
  have column : p.column = q.column := rfl
  have same : p.describe = q.describe := by decide
  exact ⟨asked, alsoAsked, column, same, describe_identifies asked alsoAsked column same⟩

end SearchBox
