import SearchBox.Assoc
import SearchBox.Fault

/- Environment variables, and the files that settings are read from. -/
namespace SearchBox

abbrev Environment := Assoc Text

/-- A file as it is found: not there, or with some bytes in it. -/
abbrev FileContent := Option (List Nat)

def Environment.nonEmpty? (env : Environment) (name : Text) : Option Text :=
  match env.find? name with
  | some (c :: t) => some (c :: t)
  | _ => none

def Environment.set (env : Environment) (name value : Text) : Except Fault Environment :=
  if '\x00' ∈ name ∨ '\x00' ∈ value then .error .embeddedNull
  else if '=' ∈ name then .error .illegalVariableName
  else .ok (env.insert name value)

end SearchBox
