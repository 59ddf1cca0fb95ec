import SearchBox.Assoc
import SearchBox.Service.ServiceSettings
import SearchBox.Service.Target
import SearchBox.Text.Percent

/- Requests: a method, a host, a path, and parameters in the order in which they were given. -/
namespace SearchBox

structure Request where
  /-- The method as it was given. -/
  method : Text
  host : Text
  path : Text
  params : List (Text × Text)
  deriving DecidableEq, Repr

namespace Request

def verb (r : Request) : Text := r.method.upper

def parseParams (t : Text) : List (Text × Text) :=
  (Percent.fieldsOf t).map fun (key, value) =>
    (Percent.decodeField key, Percent.decodeField (value.getD []))

def normalPath (coded : Text) : Text := '/' :: (Percent.decode coded).dropWhile (· = '/')

def withoutUsualPort (scheme host : Text) : Text :=
  let usual : Text :=
    if scheme = "http".toList ∨ scheme = "ws".toList then ":80".toList
    else if scheme = "https".toList ∨ scheme = "wss".toList then ":443".toList
    else []
  if usual ≠ [] ∧ usual.isSuffixOf host then host.take (host.length - usual.length) else host

/-- The target without its scheme and its authority is read as one again, and so is the path of that. -/
def ofTarget (settings : ServiceSettings) (method : Text) (given : Target)
    (params : Option (List (Text × Text))) : Except TargetFault Request := do
  if params.isSome ∧ given.query ≠ [] then throw .queryTwice
  let inner ← Target.read (given.path ++ if given.query = [] then [] else '?' :: given.query)
  let path ← (← Target.read inner.path).pathText
  let host ← Authority.normal (if given.authority = [] then settings.host else given.authority)
  let scheme := if given.scheme = [] then "http".toList else given.scheme
  return {
    method
    host := withoutUsualPort scheme host
    path := normalPath path
    params := params.getD (parseParams inner.query) }

def make (settings : ServiceSettings) (method target : Text) (params : Option (List (Text × Text))) :
    Except Fault Request :=
  match Target.read target, settings.root with
  | .error fault, _ => .error (.target fault)
  | .ok given, .text _ =>
    match ofTarget settings method given params with
    | .error fault => .error (.target fault)
    | .ok r => .ok r
  | .ok _, root => .error (.lacks root.sort "lstrip")

def arguments (r : Request) : Assoc Datum := r.params.map fun (key, value) => (key, .text value)

def param? (r : Request) (key : Text) : Option Text := Assoc.find? r.params key

end Request
end SearchBox
