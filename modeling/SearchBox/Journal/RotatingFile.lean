import SearchBox.Assoc
import SearchBox.Moment
import SearchBox.Settings.Location
import SearchBox.Text.Utf8

/- Files that records are written to. A file that would grow too large is left, and a new one is begun
   beside it under the name of the moment; none is ever renamed. -/
namespace SearchBox

/-- Moments that a clock will show; the last one stays. -/
abbrev Clock := List Moment

namespace Clock

def read : Clock → Moment × Clock
  | [] => ({ year := 1970, month := 1, day := 1 }, [])
  | [m] => (m, [m])
  | m :: rest => (m, rest)

end Clock

/-- Files by their places, each with its text, and the places of the directories that are there. Places are
    resolved, so that each of them has one name. -/
structure Folder where
  directories : List Location := []
  files : Assoc Text := []

namespace Folder

def way (l : Location) : List Location :=
  (List.range (l.parts.length + 1)).map fun n => { l with parts := l.parts.take n }.resolved

def refusal? (l : Location) : Option Fault :=
  if '\x00' ∈ l.shown then some .embeddedNull
  else if l.parts.any fun part => 255 < (Utf8.encode part).length then some (.nameTooLong l.shown)
  else none

def makeDirectory (f : Folder) (l : Location) : Except Fault Folder :=
  match refusal? l with
  | some fault => .error fault
  | none => .ok { f with directories := f.directories ++ way l }

def hasDirectory (f : Folder) (l : Location) : Bool := l ∈ f.directories || l.isStandardDirectory

/-- A file that is there already is kept as it is. No file can be opened in a directory that is not there. -/
def openFile (f : Folder) (place : Location) : Except Fault Folder :=
  match refusal? place with
  | some fault => .error fault
  | none =>
    if ((way place).dropLast).all f.hasDirectory then
      let name := place.resolved.shown
      match f.files.find? name with
      | some _ => .ok f
      | none => .ok { f with files := f.files.insert name [] }
    else .error (.fileNotFound place.shown)

def text (f : Folder) (place : Location) : Text := (f.files.find? place.resolved.shown).getD []

def append (f : Folder) (place : Location) (text : Text) : Folder :=
  { f with files := f.files.insert place.resolved.shown (f.text place ++ text) }

end Folder

structure RotatingFile where
  directory : Location
  /-- What stands in front of the moment in every name. -/
  stem : Text
  maxBytes : Int
  current : Location
  isOpen : Bool := true
  deriving DecidableEq, Repr

namespace RotatingFile

def stamp (m : Moment) : Text :=
  Text.ofInt m.year ++ Text.padded 2 m.month ++ Text.padded 2 m.day ++
    '-' :: Text.padded 2 m.hour ++ Text.padded 2 m.minute ++ Text.padded 2 m.second ++
    '-' :: Text.padded 3 (m.micro / 1000)

def placeAt (directory : Location) (stem : Text) (m : Moment) : Location :=
  directory.append (Location.ofText (stem ++ '-' :: stamp m ++ ".log".toList))

def start (directory : Location) (stem : Text) (maxBytes : Int) (clock : Clock) (folder : Folder) :
    Clock × Except Fault (RotatingFile × Folder) :=
  let (now, clock) := clock.read
  let current := (placeAt directory stem now).resolved
  (clock, (folder.openFile current).map fun folder => ({ directory, stem, maxBytes, current }, folder))

def name (r : RotatingFile) : Text := r.current.parts.getLastD []

/-- The size is counted in bytes, the line to come in characters with its line feed. -/
def isFull (r : RotatingFile) (folder : Folder) (line : Text) : Bool :=
  let size := (Utf8.encode (folder.text r.current)).length
  0 < r.maxBytes && decide (r.maxBytes ≤ size + line.length + 1)

def turn (r : RotatingFile) (clock : Clock) (folder : Folder) (line : Text) :
    RotatingFile × Clock × Folder :=
  if !r.isFull folder line then (r, clock, folder)
  else
    let (now, clock) := clock.read
    let r := { r with current := placeAt r.directory r.stem now }
    match folder.openFile r.current with
    | .ok folder => (r, clock, folder)
    | .error _ => ({ r with isOpen := false }, clock, folder)

def write (r : RotatingFile) (clock : Clock) (folder : Folder) (line : Text) :
    RotatingFile × Clock × Folder :=
  if !r.isOpen then (r, clock, folder)
  else
    let (r, clock, folder) := r.turn clock folder line
    if !r.isOpen then (r, clock, folder) else (r, clock, folder.append r.current (line ++ ['\n']))

end RotatingFile
end SearchBox
