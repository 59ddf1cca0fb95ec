import SearchBox.Connection.Address
import SearchBox.Settings.Location
import SearchBox.Text.Decimal
import SearchBox.Text.LetterCase

/- Where SQLite keeps the store of an address: in memory, or in a file, which is made if it is not there. -/
namespace SearchBox

inductive StoreFile where
  | memory
  | path (t : Text)
  /-- A file that is not made, and so cannot be opened where there is none. -/
  | existing (t : Text)
  /-- The file was to be named in full and has no name. -/
  | unnamed
  deriving DecidableEq, Repr

namespace StoreFile

def truthWords : List Text := ["true", "yes", "on", "y", "t", "1"].map String.toList

def falseWords : List Text := ["false", "no", "off", "n", "f", "0"].map String.toList

def truthOption : List Text → Except Fault Bool
  | [t] =>
    let word := t.trim.lower
    if word ∈ truthWords then .ok true
    else if word ∈ falseWords then .ok false
    else .error (.notATruthValue word)
  | _ => .ok true

def realOption : List Text → Except Fault Unit
  | [t] => if Decimal.isNumeral t then .ok () else .error (.malformedReal t)
  | _ => .error .severalReals

def wholeOption : List Text → Except Fault Unit
  | [t] => (Integer.ofText t).map fun _ => ()
  | _ => .error .severalWholes

def ownOptions : List Text :=
  ["uri", "timeout", "isolation_level", "detect_types", "check_same_thread", "cached_statements"].map
    String.toList

def ofFullName (name : Text) (options : Assoc (List Text)) : StoreFile :=
  match options.find? "mode".toList with
  | some mode =>
    if mode = ["memory".toList] then .memory
    else if mode = ["ro".toList] ∨ mode = ["rw".toList] then .existing name
    else .path name
  | none => if name = ":memory:".toList then .memory else .path name

/-- The options are judged in a fixed order, and the name of the file after them. -/
def ofAddress (a : Address) : Except Fault StoreFile := do
  if a.user.any (· ≠ []) ∨ a.password.any (· ≠ []) ∨ a.host.any (· ≠ []) ∨ a.port.any (· ≠ 0) then
    throw (.invalidFileUrl a.shown)
  let judge {α : Type} (name : String) (check : List Text → Except Fault α) : Except Fault (Option α) :=
    (a.options.find? name.toList).mapM check
  let isFull ← judge "uri" truthOption
  let _ ← judge "timeout" realOption
  let _ ← judge "detect_types" wholeOption
  let _ ← judge "check_same_thread" truthOption
  let _ ← judge "cached_statements" wholeOption
  if isFull = some true then
    let others := a.options.filter fun (key, _) => key ∉ ownOptions
    match a.database, others with
    | none, [] => return .unnamed
    | none, _ => throw .missingFileName
    | some ('f' :: 'i' :: 'l' :: 'e' :: ':' :: name), _ => return ofFullName name others
    | some name, _ => return .path name
  else
    match a.database with
    | none | some [] => return .memory
    | some name => return if name = ":memory:".toList then .memory else .path name

/-- A file can be made in a directory that is there; the working directory and those above it are. -/
def canBeMade (t : Text) : Bool :=
  let place := (Location.ofText t).resolved
  let directory : Location := { place with parts := place.parts.dropLast }
  let isThere (l : Location) : Bool :=
    if l.root = [] then l.parts.all (· = "..".toList) else l.isStandardDirectory
  isThere directory && !isThere place

def openFault : Fault := .database "unable to open database file".toList

def connect : StoreFile → Except Fault Unit
  | .memory => .ok ()
  | .path t =>
    if '\x00' ∈ t then .error .embeddedNull
    else if canBeMade t then .ok () else .error openFault
  | .existing _ => .error openFault
  | .unnamed => .error .noFileName

end StoreFile
end SearchBox
