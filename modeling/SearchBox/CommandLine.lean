import SearchBox.Explanation

/- The command line: a search text, the columns it may use, and what to show of it. Options may be
   shortened as long as they stay apart from each other, and all may be given again, the last one
   counting. -/
namespace SearchBox.CommandLine

inductive Flag where
  | help
  | columns
  | dialect
  | sql
  | table
  deriving DecidableEq, Repr

def longFlags : Assoc Flag :=
  [("--help".toList, .help), ("--columns".toList, .columns), ("--dialect".toList, .dialect),
    ("--sql".toList, .sql), ("--table".toList, .table)]

inductive Stop where
  | usage
  | help
  | fault (f : Fault)
  deriving DecidableEq, Repr

inductive Word where
  | value (t : Text)
  | separator
  | flag (f : Flag) (attached : Option Text)
  | unknown
  deriving DecidableEq, Repr

structure Request where
  search : Text
  columns : List Text
  dialect : Datum := .text "postgresql".toList
  sql : Bool := false
  table : Option Text := none

def looksNegative : Text → Bool
  | '-' :: t =>
    let t := if t.getLast? = some '\n' then t.dropLast else t
    match Text.cutAt? '.' t with
    | none => t ≠ [] && t.all isDecimal
    | some (whole, fraction) => fraction ≠ [] && whole.all isDecimal && fraction.all isDecimal
  | _ => false

def longWord (t : Text) : Except Stop Word :=
  let (name, attached) := match Text.cutAt? '=' t with
    | some (name, value) => (name, some value)
    | none => (t, none)
  match Assoc.find? longFlags name with
  | some f => .ok (.flag f attached)
  | none =>
    match longFlags.filter fun (long, _) => name.isPrefixOf long with
    | [(_, f)] => .ok (.flag f attached)
    | [] => if t.contains ' ' then .ok (.value t) else .ok .unknown
    | _ => .error .usage

/-- The short option that asks for help may be repeated behind one hyphen, or behind an equals sign. It takes
    no argument; whatever else is attached to it is kept, to be refused. -/
def helpWord (attached : Text) : Word :=
  let letters := if attached.head? = some '=' then attached.drop 1 else attached
  .flag .help (if letters.all (· = 'h') && (letters ≠ [] || attached = []) then none else some attached)

def shortWord (t : Text) : Word :=
  match t with
  | '-' :: 'h' :: rest => helpWord rest
  | _ => if looksNegative t ∨ t.contains ' ' then .value t else .unknown

def wordOf (t : Text) : Except Stop Word :=
  match t with
  | '-' :: '-' :: _ => longWord t
  | '-' :: _ :: _ => .ok (shortWord t)
  | _ => .ok (.value t)

/-- Two hyphens on their own turn everything after them into values. -/
def words : List Text → Except Stop (List Word)
  | [] => .ok []
  | t :: rest =>
    if t = "--".toList then .ok (.separator :: rest.map .value)
    else do
      let word ← wordOf t
      return word :: (← words rest)

structure Reading where
  search : Option Text := none
  columns : Option (List Text) := none
  dialect : Datum := .text "postgresql".toList
  sql : Bool := false
  table : Option Text := none
  leftOver : Bool := false

def leadingValues : List Word → List Text × List Word
  | .value t :: rest =>
    let (values, others) := leadingValues rest
    (t :: values, others)
  | rest => ([], rest)

def takeValue (r : Reading) (t : Text) : Reading :=
  match r.search with
  | none => { r with search := some t }
  | some _ => { r with leftOver := true }

/-- The argument of an option: attached, or else the next value. Two hyphens that are attached count as no
    argument, and are not refused for that. -/
def argument (attached : Option Text) (rest : List Word) : Except Stop (Option Text × List Word) :=
  match attached, rest with
  | some t, _ => .ok (if t = "--".toList then none else some t, rest)
  | none, .value t :: rest => .ok (some t, rest)
  | none, _ => .error .usage

def takeDialect (r : Reading) (given : Option Text) : Except Stop Reading :=
  match given with
  | none => .ok { r with dialect := .list [] }
  | some name =>
    match SqlDialect.ofName? name with
    | some _ => .ok { r with dialect := .text name }
    | none => .error .usage

def step (r : Reading) (w : Word) (rest : List Word) : Except Stop (Reading × List Word) :=
  match w with
  | .value t =>
    match r.search, rest with
    | none, .separator :: rest => .ok (takeValue r t, rest)
    | _, _ => .ok (takeValue r t, rest)
  | .separator =>
    match r.search, rest with
    | none, .value t :: rest => .ok (takeValue r t, rest)
    | _, _ => .ok ({ r with leftOver := true }, rest)
  | .unknown => .ok ({ r with leftOver := true }, rest)
  | .flag .help none => .error .help
  | .flag .help (some _) => .error .usage
  | .flag .sql none => .ok ({ r with sql := true }, rest)
  | .flag .sql (some _) => .error .usage
  | .flag .columns none =>
    match leadingValues rest with
    | ([], _) => .error .usage
    | (values, rest) => .ok ({ r with columns := some values }, rest)
  | .flag .columns attached => do
    let (given, rest) ← argument attached rest
    return ({ r with columns := some given.toList }, rest)
  | .flag .dialect attached => do
    let (given, rest) ← argument attached rest
    return (← takeDialect r given, rest)
  | .flag .table attached => do
    let (given, rest) ← argument attached rest
    return ({ r with table := given }, rest)

/-- Every step takes a word at least, so the number of words bounds the steps. -/
def readWords : Nat → Reading → List Word → Except Stop Reading
  | _, r, [] => .ok r
  | 0, _, _ => .error .usage
  | fuel + 1, r, w :: rest => do
    let (r, rest) ← step r w rest
    readWords fuel r rest

def read (args : List Text) : Except Stop Request := do
  let ws ← words args
  let r ← readWords ws.length {} ws
  match r.search, r.columns, r.leftOver with
  | some search, some columns, false =>
    return { search, columns, dialect := r.dialect, sql := r.sql, table := r.table }
  | _, _, _ => .error .usage

/-- The database, or why there is none, matters only if a table is asked for; an empty name asks for
    none. -/
def perform (db : Except Fault Database) (request : Request) : Except Fault (List Text) := do
  let columns ← request.columns.mapM Explanation.columnOf
  match request.table with
  | some (c :: name) => Explanation.rowLines (← db) (some request.search) columns (c :: name)
  | _ => Explanation.lines (some request.search) columns request.dialect request.sql

def run (db : Except Fault Database) (args : List Text) : Except Stop (List Text) :=
  match read args with
  | .error stop => .error stop
  | .ok request =>
    match perform db request with
    | .error f => .error (.fault f)
    | .ok lines => .ok lines

def usage : Text :=
  ("usage: explain [-h] --columns COLUMNS [COLUMNS ...] [--dialect \x7bmysql,postgresql,sqlite\x7d] " ++
    "[--sql] [--table TABLE] search").toList

end SearchBox.CommandLine
