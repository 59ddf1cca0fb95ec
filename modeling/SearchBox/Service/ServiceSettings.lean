import SearchBox.Datum
import SearchBox.Service.Authority

/- Settings of the service that its configuration may hold. -/
namespace SearchBox

structure ServiceSettings where
  /-- The host of requests that name none. -/
  host : Text := "localhost".toList
  /-- Where the service has its pages. -/
  root : Datum := .text ['/']
  /-- Hosts that are answered; without any setting all of them are. -/
  trustedHosts : Datum := .null
  /-- Whether a page tells its options when it is asked for them. -/
  tellsOptions : Bool := true
  /-- Whether a reply that sends a request on has a body like a refusal. -/
  explainsRedirects : Bool := false

namespace ServiceSettings

def ofFields (fields : Assoc Datum) : ServiceSettings :=
  let host := (fields.find? "SERVER_NAME".toList).getD .null
  { host := if host.holds then host.plain else "localhost".toList
    root := (fields.find? "APPLICATION_ROOT".toList).getD (.text ['/'])
    trustedHosts := (fields.find? "TRUSTED_HOSTS".toList).getD .null
    tellsOptions := ((fields.find? "PROVIDE_AUTOMATIC_OPTIONS".toList).map Datum.holds).getD true
    explainsRedirects := ((fields.find? "TRAP_HTTP_EXCEPTIONS".toList).map Datum.holds).getD false }

/-- A trusted host stands for itself, or with a point in front for all hosts below it. -/
def trusts (host : Text) : List Datum → Except Fault Bool
  | [] => .ok false
  | .text t :: rest => do
    let (isSuffix, name) :=
      match t with
      | '.' :: name => (true, name)
      | name => (false, name)
    match Authority.hostCode (Authority.cut ':' name).1 with
    | .error fault => throw (.target fault)
    | .ok name =>
      if name = host ∨ (isSuffix ∧ ('.' :: name).isSuffixOf host) then return true else trusts host rest
  | d :: _ => .error (.lacks d.sort "startswith")

def isTrusted (s : ServiceSettings) (host : Text) : Except Fault Bool :=
  let name := (Authority.cut ':' host).1
  match s.trustedHosts with
  | .null => .ok true
  | d =>
    if host = [] then .ok false
    else match d with
      | .text t => trusts name [.text t]
      | .list items => trusts name items
      | .record fields => trusts name (fields.map fun (key, _) => .text key)
      | d => .error (.notASequence d.sort)

end ServiceSettings
end SearchBox
