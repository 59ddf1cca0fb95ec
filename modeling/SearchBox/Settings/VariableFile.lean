import SearchBox.Settings.Environment
import SearchBox.Text.LetterCase

/- Files of environment variables: a line for each, with comments, quotes, and references to variables
   between braces. A line that cannot be read is passed over, but a file that is no text is an error. -/
namespace SearchBox.VariableFile

def isGap (c : Char) : Bool := isBlank c && c ≠ '\n' && c ≠ '\r'

def skipGap (t : Text) : Text := t.dropWhile isGap

def nextLine (t : Text) : Text := (t.dropWhile (· ≠ '\n')).drop 1

def skipExport (t : Text) : Text :=
  let word := "export".toList
  if word.isPrefixOf t then
    let rest := t.drop word.length
    if (rest.takeWhile isGap) = [] then t else skipGap rest
  else t

/-- A name, quoted or not; a comment has none. A failure leaves the place where it arose. -/
def name (t : Text) : Except Text (Option Text × Text) :=
  match t with
  | '#' :: _ => .ok (none, t)
  | '\'' :: rest =>
    let quoted := rest.takeWhile (· ≠ '\'')
    match rest.dropWhile (· ≠ '\'') with
    | _ :: after => if quoted = [] then .error t else .ok (some quoted, after)
    | [] => .error t
  | _ =>
    let isNameChar (c : Char) : Bool := c ≠ '=' && c ≠ '#' && !isBlank c
    let word := t.takeWhile isNameChar
    if word = [] then .error t else .ok (some word, t.dropWhile isNameChar)

def quoted? (quote : Char) : Text → Option (Text × Text)
  | [] | ['\\'] => none
  | '\\' :: c :: rest => (quoted? quote rest).map fun (value, after) => ('\\' :: c :: value, after)
  | c :: rest =>
    if c = quote then some ([], rest) else (quoted? quote rest).map fun (value, after) => (c :: value, after)

def unescapeSingle : Text → Text
  | '\\' :: c :: rest =>
    if c = '\\' ∨ c = '\'' then c :: unescapeSingle rest else '\\' :: unescapeSingle (c :: rest)
  | c :: rest => c :: unescapeSingle rest
  | [] => []

def escapes : List (Char × Char) :=
  [('\\', '\\'), ('\'', '\''), ('"', '"'), ('a', '\x07'), ('b', '\x08'), ('f', '\x0c'), ('n', '\n'),
    ('r', '\r'), ('t', '\t'), ('v', '\x0b')]

def unescapeDouble : Text → Text
  | '\\' :: c :: rest =>
    match escapes.find? (·.1 = c) with
    | some (_, plain) => plain :: unescapeDouble rest
    | none => '\\' :: unescapeDouble (c :: rest)
  | c :: rest => c :: unescapeDouble rest
  | [] => []

/-- A plain value ends where blanks and a number sign begin a comment. -/
def cutComment : Text → Text
  | [] => []
  | c :: rest =>
    if isBlank c ∧ (rest.dropWhile isBlank).head? = some '#' then [] else c :: cutComment rest

def value (t : Text) : Except Text (Text × Text) :=
  match skipGap t with
  | [] => .ok ([], [])
  | '\n' :: rest => .ok ([], '\n' :: rest)
  | '\'' :: rest =>
    match quoted? '\'' rest with
    | some (v, after) => .ok (unescapeSingle v, after)
    | none => .error (skipGap t)
  | '"' :: rest =>
    match quoted? '"' rest with
    | some (v, after) => .ok (unescapeDouble v, after)
    | none => .error (skipGap t)
  | _ =>
    let line := t.takeWhile (· ≠ '\n')
    .ok ((cutComment line).trim, t.dropWhile (· ≠ '\n'))

def skipComment (t : Text) : Text :=
  match skipGap t with
  | '#' :: rest => rest.dropWhile (· ≠ '\n')
  | _ => t

def lineEnd (t : Text) : Except Text Text :=
  match skipGap t with
  | [] => .ok []
  | '\n' :: rest => .ok rest
  | _ => .error t

def assignment (t : Text) : Except Text (Option (Text × Option Text) × Text) := do
  let (name, t) ← name (skipExport t)
  let t := skipGap t
  let (given, t) ←
    match t with
    | '=' :: rest => do
      let (v, t) ← value rest
      pure (some v, t)
    | _ => pure (none, t)
  let rest ← lineEnd (skipComment t)
  return (name.map fun n => (n, given), rest)

/-- Every assignment or unreadable line takes a character, so the length bounds the steps. -/
def assignmentsFrom : Nat → Text → List (Text × Option Text)
  | 0, _ => []
  | fuel + 1, t =>
    match t.dropWhile isBlank with
    | [] => []
    | t =>
      match assignment t with
      | .ok (some b, rest) => b :: assignmentsFrom fuel rest
      | .ok (none, rest) => assignmentsFrom fuel rest
      | .error place => assignmentsFrom fuel (nextLine place)

def assignments (t : Text) : List (Text × Option Text) :=
  let t := t.unifyLines
  assignmentsFrom (t.length + 1) t

def reference? (t : Text) : Option (Text × Option Text × Text) :=
  let name := t.takeWhile fun c => c ≠ '\x7d' && c ≠ ':'
  match t.drop name.length with
  | '\x7d' :: rest => some (name, none, rest)
  | ':' :: '-' :: rest =>
    let fallback := rest.takeWhile (· ≠ '\x7d')
    match rest.drop fallback.length with
    | _ :: rest => some (name, some fallback, rest)
    | [] => none
  | _ => none

/-- A value with its references replaced; a variable that is not known leaves its default or nothing. -/
def resolveFrom (lookup : Text → Option (Option Text)) : Nat → Text → Text
  | 0, t => t
  | _, [] => []
  | fuel + 1, c :: rest =>
    match c, rest with
    | '$', '\x7b' :: inner =>
      match reference? inner with
      | some (name, fallback, rest) =>
        let found :=
          match lookup name with
          | some v => v.getD []
          | none => fallback.getD []
        found ++ resolveFrom lookup fuel rest
      | none => c :: resolveFrom lookup fuel rest
    | _, _ => c :: resolveFrom lookup fuel rest

/-- The environment goes before the file where both know a name. -/
def resolved (env : Environment) (known : Assoc (Option Text)) :
    List (Text × Option Text) → Assoc (Option Text)
  | [] => known
  | (name, given) :: rest =>
    let lookup (n : Text) : Option (Option Text) :=
      match env.find? n with
      | some v => some (some v)
      | none => known.find? n
    let v := given.map fun t => resolveFrom lookup (t.length + 1) t
    resolved env (known.insert name v) rest

def addTo (env : Environment) : Assoc (Option Text) → Except Fault Environment
  | [] => .ok env
  | (name, given) :: rest =>
    match env.find? name, given with
    | none, some v => do addTo (← env.set name v) rest
    | _, _ => addTo env rest

def isDisabled (env : Environment) : Bool :=
  match env.find? "PYTHON_DOTENV_DISABLED".toList with
  | none => false
  | some t => ["1", "TRUE", "T", "YES", "Y"].any fun word => t.upper = word.toList

def characters (bytes : List Nat) : Except Fault Text :=
  match Utf8.read bytes with
  | .error misfit => .error (.undecodable misfit)
  | .ok ('\ufeff' :: t) => .ok t
  | .ok t => .ok t

def load (file : FileContent) (env : Environment) : Except Fault Environment :=
  match file with
  | none => .ok env
  | some bytes =>
    if isDisabled env then .ok env
    else do addTo env (resolved env [] (assignments (← characters bytes)))

end SearchBox.VariableFile
