import SearchBox.Connection.Driver
import SearchBox.Connection.StoreFile
import SearchBox.Connection.Url
import SearchBox.Settings.VariableFile

/- Engines: what the program connects through. There is one at a time, made when it is first asked for and
   kept until it is disposed of. -/
namespace SearchBox

structure Pool where
  size : Int
  overflow : Int
  prePing : Bool
  deriving DecidableEq, Repr

structure EngineSettings where
  echo : Bool
  pool : Option Pool
  deriving DecidableEq, Repr

namespace EngineSettings

def number (env : Environment) (name standard : String) : Except Fault Int :=
  Integer.ofText ((env.find? name.toList).getD standard.toList)

def ofEnvironment (env : Environment) (url : Text) : Except Fault EngineSettings := do
  let echo ← number env "SQLALCHEMY_ECHO" "0"
  if "sqlite".toList.isPrefixOf url then return { echo := echo ≠ 0, pool := none }
  let size ← number env "SQLALCHEMY_POOL_SIZE" "5"
  let overflow ← number env "SQLALCHEMY_MAX_OVERFLOW" "10"
  let prePing ← number env "SQLALCHEMY_POOL_PRE_PING" "1"
  return { echo := echo ≠ 0, pool := some { size, overflow, prePing := prePing ≠ 0 } }

end EngineSettings

structure Engine where
  serial : Nat
  address : Address
  file : StoreFile
  options : EngineSettings
  deriving DecidableEq, Repr

namespace Engine

/-- Options that name plugins concern the engine and not the database. There are no plugins to be found. -/
def withoutPlugins (a : Address) : Except Fault Address :=
  match a.options.find? "plugin".toList with
  | some (name :: _) => .error (.unknownPlugin name)
  | _ =>
    let others := a.options.filter fun (key, _) => key ≠ "plugin".toList ∧ key ≠ "plugins".toList
    .ok { a with options := others }

def make (serial : Nat) (url : Text) (options : EngineSettings) : Except Fault Engine := do
  let address ← withoutPlugins (← Address.read url)
  Driver.load address.system
  let file ← StoreFile.ofAddress address
  return { serial, address, file, options }

end Engine

structure EngineHolder where
  current : Option Engine := none
  made : Nat := 0

namespace EngineHolder

def get (h : EngineHolder) (env : Environment) (variableFile parts : FileContent) :
    Except Fault (EngineHolder × Engine) :=
  match h.current with
  | some e => .ok (h, e)
  | none => do
    let env ← VariableFile.load variableFile env
    let url := Connection.url env parts
    let options ← EngineSettings.ofEnvironment env url
    let e ← Engine.make h.made url options
    return ({ current := some e, made := h.made + 1 }, e)

def dispose (h : EngineHolder) : EngineHolder := { h with current := none }

end EngineHolder
end SearchBox
