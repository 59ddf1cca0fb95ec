import SearchBox.Assoc
import SearchBox.Fault
import SearchBox.Text.Percent
import SearchBox.Text.WordChar

/- Addresses of databases: the name of a system, a user with a password, a host with a port, the name of
   a database, and options. Everything but the system may be missing. -/
namespace SearchBox

structure Address where
  system : Text
  user : Option Text := none
  password : Option Text := none
  host : Option Text := none
  port : Option Int := none
  database : Option Text := none
  /-- Options with their values; one that is given again has several. -/
  options : Assoc (List Text) := []
  deriving DecidableEq, Repr

namespace Address

def system? (t : Text) : Option (Text × Text) :=
  let isSystemChar (c : Char) : Bool := isWordChar c || c = '+'
  let system := t.takeWhile isSystemChar
  match system, t.dropWhile isSystemChar with
  | _ :: _, ':' :: '/' :: '/' :: rest => some (system, rest)
  | _, _ => none

/-- The user and the password in front of the host. A user goes on to the first colon, if an at sign stands
    somewhere behind it, and the password to that sign; without a password the last at sign before the
    first colon or slash ends the user. -/
def cutUser (t : Text) : Option Text × Option Text × Text :=
  let isUserChar (c : Char) : Bool := c ≠ ':' && c ≠ '/'
  let run := t.takeWhile isUserChar
  let rest := t.dropWhile isUserChar
  let withPassword :=
    match rest with
    | ':' :: behind => Text.cutAt? '@' behind
    | _ => none
  match withPassword with
  | some (password, t) => (some run, some password, t)
  | none =>
    match Text.cutAtLast? '@' run with
    | some (user, host) => (some user, none, host ++ rest)
    | none => (none, none, t)

def cutHost (t : Text) : Option Text × Text :=
  let isInner (c : Char) : Bool := c ≠ '/' && c ≠ '?'
  let bracketed :=
    match t with
    | '[' :: inner =>
      match Text.cutAtLast? ']' (inner.takeWhile isInner) with
      | some (c :: host, rest) => some (c :: host, rest ++ inner.dropWhile isInner)
      | _ => none
    | _ => none
  match bracketed with
  | some (host, rest) => (some host, rest)
  | none =>
    let isHostChar (c : Char) : Bool := isInner c && c ≠ ':'
    let host := t.takeWhile isHostChar
    (if host = [] then none else some host, t.dropWhile isHostChar)

def cutBehind (mark : Char) (belongs : Char → Bool) (t : Text) : Option Text × Text :=
  match t with
  | c :: rest => if c = mark then (some (rest.takeWhile belongs), rest.dropWhile belongs) else (none, t)
  | [] => (none, [])

def decodeForm (t : Text) : Text := Percent.decode (Percent.unplus t)

def optionsOf (query : Text) : Assoc (List Text) :=
  (Percent.fieldsOf query).foldl
    (fun options (key, value) =>
      match value with
      | some (c :: value) =>
        let key := decodeForm key
        options.insert key ((options.find? key).getD [] ++ [decodeForm (c :: value)])
      | _ => options) []

def read (t : Text) : Except Fault Address :=
  match system? t with
  | none => .error .unreadableUrl
  | some (system, t) => do
    let (user, password, t) := cutUser t
    let (host, t) := cutHost t
    let (port, t) := cutBehind ':' (fun c => c ≠ '/' && c ≠ '?') t
    let (database, t) := cutBehind '/' (· ≠ '?') t
    let (query, _) := cutBehind '?' (· ≠ '\n') t
    let port ← port.mapM Integer.ofText
    return {
      system, host, port
      user := user.map Percent.decode
      password := password.map Percent.decode
      database := database.map Percent.decode
      options := (query.map optionsOf).getD [] }

def userText (a : Address) : Text :=
  match a.user with
  | none => []
  | some user =>
    Percent.encodeExcept [' ', '+'] user ++
      (if a.password.isSome then ":***".toList else []) ++ ['@']

def hostText (a : Address) : Text :=
  match a.host with
  | none => []
  | some host => if ':' ∈ host then '[' :: host ++ [']'] else host

def optionsText (a : Address) : Text :=
  let sorted := a.options.mergeSort fun x y => Text.order x.1 y.1 != .gt
  let fields := sorted.flatMap fun (key, values) =>
    values.map fun v => Percent.encode key ++ '=' :: Percent.encode v
  if fields = [] then [] else '?' :: Text.join ['&'] fields

def shown (a : Address) : Text :=
  a.system ++ "://".toList ++ a.userText ++ a.hostText ++
    (match a.port with
      | none => []
      | some port => ':' :: Text.ofInt port) ++
    (match a.database with
      | none => []
      | some database => '/' :: Percent.encodeExcept [' ', '+', '/'] database) ++
    a.optionsText

end Address
end SearchBox
