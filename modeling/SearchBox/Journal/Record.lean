import SearchBox.Text.Quoted

/- Records that operations write while they work, and values that carry the records of their making. -/
namespace SearchBox

inductive Severity where
  | debug
  | info
  | warning
  | error
  deriving DecidableEq, Repr

structure Record where
  severity : Severity
  logger : Text
  message : Text
  deriving DecidableEq, Repr

structure Logged (α : Type) where
  records : List Record
  value : α

namespace Logged

instance : Monad Logged where
  pure a := ⟨[], a⟩
  bind x f := ⟨x.records ++ (f x.value).records, (f x.value).value⟩

def write (severity : Severity) (logger : String) (message : Text) : Logged Unit :=
  ⟨[⟨severity, logger.toList, message⟩], ()⟩

def debug (logger : String) (message : Text) : Logged Unit := write .debug logger message

/-- A record whose message cannot be written is left out. -/
def debugIf (logger : String) (message : Option Text) : Logged Unit := message.elim (pure ()) (debug logger)

end Logged
end SearchBox
