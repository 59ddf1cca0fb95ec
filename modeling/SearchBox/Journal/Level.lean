import SearchBox.Datum
import SearchBox.Fault
import SearchBox.Settings.Environment
import SearchBox.Text.LetterCase

/- Levels of records. A level is given as a number or as a word; words that name no level mean the
   informative one. -/
namespace SearchBox

inductive LogLevel where
  | number (n : Int)
  | switch (on : Bool)
  /-- A word that names something other than a level. -/
  | word (t : Text)
  /-- The name of all styles that lines may have, which is no level either. -/
  | styles
  deriving DecidableEq, Repr

structure LineStyle where
  mark : Text
  filler : Text
  line : Text
  deriving DecidableEq, Repr

namespace LineStyle

def all : List LineStyle :=
  [⟨"%".toList, "logging.PercentStyle".toList, "%(levelname)s:%(name)s:%(message)s".toList⟩,
    ⟨"\x7b".toList, "logging.StrFormatStyle".toList,
      "\x7blevelname\x7d:\x7bname\x7d:\x7bmessage\x7d".toList⟩,
    ⟨"$".toList, "logging.StringTemplateStyle".toList,
      "$\x7blevelname\x7d:$\x7bname\x7d:$\x7bmessage\x7d".toList⟩]

def fillerShown (s : LineStyle) : Text := "<class '".toList ++ s.filler ++ "'>".toList

def shown (s : LineStyle) : Text :=
  Quoted.encode s.mark ++ ": (".toList ++ s.fillerShown ++ ", ".toList ++ Quoted.encode s.line ++ [')']

end LineStyle

namespace LogLevel

def named : Assoc LogLevel :=
  [("CRITICAL".toList, .number 50), ("FATAL".toList, .number 50), ("ERROR".toList, .number 40),
    ("WARNING".toList, .number 30), ("WARN".toList, .number 30), ("INFO".toList, .number 20),
    ("DEBUG".toList, .number 10), ("NOTSET".toList, .number 0),
    ("BASIC_FORMAT".toList, .word "%(levelname)s:%(name)s:%(message)s".toList),
    ("_STYLES".toList, .styles)]

def ofName (name : Text) : LogLevel := (named.find? name.upper).getD (.number 20)

def ofGiven (given : Datum) (env : Environment) : LogLevel :=
  match given with
  | .int n => .number n
  | .bool b => .switch b
  | .text t => ofName t
  | _ => ofName ((env.find? "LOG_LEVEL".toList).getD "INFO".toList)

def threshold : LogLevel → Except Fault Int
  | .number n => .ok n
  | .switch on => .ok (if on then 1 else 0)
  | .word t => .error (.unknownLevel t)
  | .styles =>
    .error (.notALevel ('\x7b' :: Text.join ", ".toList (LineStyle.all.map LineStyle.shown) ++ ['\x7d']))

def numberName (n : Int) : Text :=
  if n = 50 then "CRITICAL".toList
  else if n = 40 then "ERROR".toList
  else if n = 30 then "WARNING".toList
  else if n = 20 then "INFO".toList
  else if n = 10 then "DEBUG".toList
  else if n = 0 then "NOTSET".toList
  else "Level ".toList ++ Text.ofInt n

def shown : LogLevel → Text
  | .number n => numberName n
  | .switch true => "Level True".toList
  | .switch false => "NOTSET".toList
  | .word t => t
  | .styles => []

end LogLevel
end SearchBox
