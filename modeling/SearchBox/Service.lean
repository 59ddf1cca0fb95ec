import SearchBox.Grid
import SearchBox.Service.Request
import SearchBox.Service.Route
import SearchBox.Settings.Configuration
import SearchBox.Store.Database

/- The service that answers requests about its grids: their list, their descriptions and their rows. -/
namespace SearchBox

structure Reply where
  status : Nat
  body : Option Datum

/-- The database behind a service: the name of its dialect, and what it answers to queries once it is
    reached. -/
structure Backend where
  dialect : Text
  connect : Except Fault (Query → Except Fault (List Row))

/-- Grids, the key that their descriptions show, and the key for reading requests, which may have been taken
    away. -/
structure Service where
  settings : ServiceSettings
  grids : List Grid
  key : SearchKey
  requestKey : Option SearchKey
  backend : Backend

namespace Backend

def sqlite (db : Database) : Backend where
  dialect := "sqlite".toList
  connect := .ok fun q => do q.fetch (← db.rowsOf q.table.name)

def unreachable : Backend where
  dialect := "sqlite".toList
  connect := .error (.database ("(sqlite3.OperationalError) unable to open database file\n" ++
    "(Background on this error at: https:" ++ "//sqlalche.me/e/21/e3q8)").toList)

/-- The rows for a query that was searched. Faults of its filters come before the database is reached. -/
def answer (b : Backend) (searched : Outcome Datum) : Except Fault (List Row) := do
  let _ ← searched.result
  (← b.connect) searched.query

end Backend

namespace Cell

def asDatum : Cell → Datum
  | .null => .null
  | .truth b => .bool b
  | .int n => .int n
  | .text t => .text t
  | .date m | .moment m => .text m.http

end Cell

namespace Service

def nameNumber? : Datum → Option (Int × Nat)
  | .bool b => some (if b then 1 else 0, 1)
  | .int n => some (n, 1)
  | .real (.finite negative m e) =>
    let (num, den) := Double.scaled m 2 e
    some (if negative then -(num : Int) else num, den)
  | _ => none

/-- Names are the same if they are the same text or the same number. -/
def sameName (a b : Datum) : Bool :=
  match a, b with
  | .text s, .text t => s = t
  | .real (.infinite s), .real (.infinite t) => s = t
  | _, _ =>
    match nameNumber? a, nameNumber? b with
    | some (an, ad), some (bn, bd) => an * bd = bn * ad
    | _, _ => false

def register (key : SearchKey) (known : List Grid) : List Grid → Except Fault (List Grid)
  | [] => .ok known
  | g :: rest =>
    match g.name with
    | .list _ | .record _ => .error (.unhashable g.name.sort)
    | name =>
      if known.any fun other => sameName other.name name then
        .error (.showing .duplicateGrid name.written?)
      else register key (known ++ [{ g with key := key }]) rest

def firstUnnamed? (index : Nat) : List Grid → Option Fault
  | [] => none
  | g :: rest =>
    if g.name.isText then firstUnnamed? (index + 1) rest
    else some (.gridNameNotText index g.name.sort)

def make (env : Environment) (config : FileContent) (grids : List Grid) (backend : Backend) :
    Except Fault Service := do
  let fields := Configuration.ofFile config
  let key ← Configuration.searchKey env fields
  let registered ← register key [] grids
  match firstUnnamed? 0 grids with
  | some fault => .error fault
  | none =>
    return {
      settings := .ofFields fields, grids := registered, key, requestKey := some key, backend }

def dropRequestKey (s : Service) : Service := { s with requestKey := none }

def success (fields : List (Text × Datum)) : Reply :=
  { status := 200, body := some (.record (("ok".toList, .bool true) :: fields)) }

def refusal (r : Request) (code : Nat) (name : Text) (description : Datum) : Reply :=
  { status := code
    body := some (.record [
      ("ok".toList, .bool false), ("error".toList, .text name), ("code".toList, .int code),
      ("description".toList, description), ("path".toList, .text r.path),
      ("method".toList, .text r.verb)]) }

def notFound (r : Request) (description : Text) : Reply :=
  refusal r 404 "Not Found".toList (.text description)

def noSuchPage (r : Request) : Reply :=
  notFound r ("The requested URL was not found on the server. " ++
    "If you entered the URL manually please check your spelling and try again.").toList

def wrongMethod (r : Request) : Reply :=
  refusal r 405 "Method Not Allowed".toList
    (.text "The method is not allowed for the requested URL.".toList)

def untrustedHost (r : Request) : Reply :=
  refusal r 400 "Bad Request".toList
    (.text ("Host ".toList ++ Quoted.encode r.host ++ " is not trusted.".toList))

def redirect (s : Service) (r : Request) : Reply :=
  if s.settings.explainsRedirects then refusal r 308 "Permanent Redirect".toList .null
  else { status := 308, body := none }

def failure (status : Nat) (message : Text) : Reply :=
  { status
    body := some (.record [("ok".toList, .bool false), ("error".toList, .text message)]) }

def internalFailure : Reply := failure 500 "Internal Server Error".toList

def rowDatum (row : Row) : Datum := .record (row.map fun (name, cell) => (name, cell.asDatum))

def search (s : Service) (g : Grid) (r : Request) : Except Fault (List Row) :=
  let query := Query.start g.table (some s.backend.dialect)
  let key := s.requestKey.getD .standard
  s.backend.answer (g.apply false r.arguments query (some key)).value

def rowsReply : Except Fault (List Row) → Reply
  | .ok rows => success [("data".toList, .list (rows.map rowDatum))]
  | .error fault => failure 400 fault.message

def withGrid (s : Service) (r : Request) (name : Text) (reply : Grid → Reply) : Reply :=
  match s.grids.find? fun g => sameName g.name (.text name) with
  | none => notFound r ("Unknown grid ".toList ++ Quoted.encode name)
  | some g => reply g

def described (grids : List Grid) (data : Datum) : Reply :=
  if grids.all fun g => g.position.isData then success [("data".toList, data)] else internalFailure

def answer (s : Service) (r : Request) : Route → Reply
  | .grids => described s.grids (.list (s.grids.map fun g => g.describe.asDatum))
  | .grid name => s.withGrid r name fun g => described [g] g.describe.asDatum
  | .rows name => s.withGrid r name fun g => rowsReply (s.search g r)
  | .health =>
    match s.backend.connect with
    | .ok _ => success []
    | .error _ => internalFailure
  | .asset => noSuchPage r

def allows (s : Service) (r : Request) (route : Route) : Bool :=
  r.verb = "GET".toList || r.verb = "HEAD".toList ||
    (r.verb = "OPTIONS".toList && (s.settings.tellsOptions || route = .asset))

def reply (s : Service) (r : Request) : Reply :=
  match Route.ofPath r.path with
  | some route =>
    if !s.allows r route then wrongMethod r
    else if r.verb = "OPTIONS".toList then { status := 200, body := none }
    else s.answer r route
  | none =>
    match Route.ofPath (Route.mergeSlashes r.path) with
    | some route => if s.allows r route then s.redirect r else wrongMethod r
    | none => noSuchPage r

def respond (s : Service) (r : Request) : Except Fault Reply := do
  let isTrusted ← s.settings.isTrusted r.host
  let reply := if isTrusted then s.reply r else untrustedHost r
  return if r.method = "HEAD".toList then { reply with body := none } else reply

end Service
end SearchBox
