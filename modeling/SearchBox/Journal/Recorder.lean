import SearchBox.Journal.Level
import SearchBox.Journal.RotatingFile

/- The recorder of a process: it drops records below its level and writes the others to a file, and on the
   console if it is asked to. Starting it again replaces where it writes to. -/
namespace SearchBox

inductive Handler where
  | file (f : RotatingFile)
  | console
  deriving DecidableEq, Repr

structure Recorder where
  level : LogLevel := .number 30
  threshold : Int := 30
  handlers : List Handler := []
  clock : Clock
  folder : Folder := {}
  console : Text := []

structure Stamp where
  time : Text
  process : Text

structure Start where
  application : Text := "quicksearch".toList
  level : Datum := .null
  toConsole : Bool := true
  maxBytes : Int := 1000000

namespace Recorder

def line (s : Stamp) (level : Int) (logger message : Text) : Text :=
  s.time ++ ' ' :: LogLevel.numberName level ++ " [".toList ++ s.process ++ "] ".toList ++
    (if logger = [] then "root".toList else logger) ++ ": ".toList ++ message

def handle (r : Recorder) (text : Text) : List Handler → Recorder × List Handler
  | [] => (r, [])
  | .console :: rest =>
    let (r, handlers) := { r with console := r.console ++ text ++ ['\n'] }.handle text rest
    (r, .console :: handlers)
  | .file f :: rest =>
    let (f, clock, folder) := f.write r.clock r.folder text
    let (r, handlers) := { r with clock, folder }.handle text rest
    (r, .file f :: handlers)

/-- Loggers of the database tools take warnings only, whatever the recorder takes. -/
def thresholdOf (r : Recorder) (logger : Text) : Int :=
  let tools := "sqlalchemy".toList
  if logger = tools ∨ (tools ++ ['.']).isPrefixOf logger then 30 else r.threshold

def log (r : Recorder) (s : Stamp) (level : Int) (logger message : Text) : Recorder :=
  if level ≤ 0 ∨ level < r.thresholdOf logger then r
  else
    let (r, handlers) := r.handle (line s level logger message) r.handlers
    { r with handlers }

/-- The recorder with its level and its handlers, which it begins to use at once. A recorder that cannot
    open its file has none to write to. -/
def startIn (r : Recorder) (s : Stamp) (level : LogLevel) (threshold : Int) (directory : Location)
    (given : Start) : Recorder × Option Fault :=
  let r := { r with level, threshold, handlers := [] }
  match RotatingFile.start directory given.application given.maxBytes r.clock r.folder with
  | (clock, .error fault) => ({ r with clock }, some fault)
  | (clock, .ok (file, folder)) =>
    let handlers := .file file :: if given.toConsole then [.console] else []
    let r := { r with handlers, clock, folder }
    (r.log s 20 [] ("Logging started app=".toList ++ given.application ++ " dir=".toList ++
      directory.shown ++ " level=".toList ++ level.shown), none)

def start (r : Recorder) (s : Stamp) (env : Environment) (directory : Location) (given : Start) :
    Recorder × Option Fault :=
  match r.folder.makeDirectory directory with
  | .error fault => (r, some fault)
  | .ok folder =>
    let r := { r with folder }
    let level := LogLevel.ofGiven given.level env
    match level.threshold with
    | .error fault => (r, some fault)
    | .ok threshold => r.startIn s level threshold directory given

end Recorder
end SearchBox
