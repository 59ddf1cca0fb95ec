import SearchBox.Datum
import SearchBox.Text.Integer
import SearchBox.Text.Percent

/- Reading values from JSON texts. Beyond the standard, the words for the numbers that are not finite are
   understood; a key written twice keeps its last value; a whole number may not have more digits than
   whole numbers may have anywhere; lists and records may only be so deep within each other. -/
namespace SearchBox.JsonReader

def isSpace (c : Char) : Bool := c = ' ' || c = '\t' || c = '\n' || c = '\r'

def skipSpace (t : Text) : Text := t.dropWhile isSpace

def isFigure (c : Char) : Bool := 48 ≤ c.toNat && c.toNat ≤ 57

def figuresValue (figures : Text) : Nat := digitsValue (figures.map fun c => c.toNat - 48)

def codeUnit? : Text → Option (Nat × Text)
  | a :: b :: c :: d :: rest => do
    let a ← Percent.hexValue? a
    let b ← Percent.hexValue? b
    let c ← Percent.hexValue? c
    let d ← Percent.hexValue? d
    return (4096 * a + 256 * b + 16 * c + d, rest)
  | _ => none

def isHighHalf (n : Nat) : Bool := 0xD800 ≤ n && n ≤ 0xDBFF

def isLowHalf (n : Nat) : Bool := 0xDC00 ≤ n && n ≤ 0xDFFF

/-- A character that a code stands for; two halves that follow each other make one character, and a half
    on its own is replaced. -/
def codedChar? (t : Text) : Option (Char × Text) := do
  let (first, rest) ← codeUnit? t
  let alone : Char := if isHighHalf first || isLowHalf first then '\ufffd' else Char.ofNat first
  match isHighHalf first, rest with
  | true, '\\' :: 'u' :: more =>
    match codeUnit? more with
    | some (second, after) =>
      if isLowHalf second then
        some (Char.ofNat (0x10000 + (first - 0xD800) * 0x400 + (second - 0xDC00)), after)
      else some (alone, rest)
    | none => some (alone, rest)
  | _, _ => some (alone, rest)

def escaped? : Char → Option Char
  | '"' => some '"'
  | '\\' => some '\\'
  | '/' => some '/'
  | 'b' => some '\x08'
  | 'f' => some '\x0c'
  | 'n' => some '\n'
  | 'r' => some '\r'
  | 't' => some '\t'
  | _ => none

def stringFrom? : Nat → Text → Option (Text × Text)
  | 0, _ => none
  | _, [] => none
  | fuel + 1, c :: rest =>
    if c = '"' then some ([], rest)
    else if c.toNat < 32 then none
    else if c = '\\' then
      match rest with
      | 'u' :: rest => do
        let (coded, rest) ← codedChar? rest
        let (tail, rest) ← stringFrom? fuel rest
        return (coded :: tail, rest)
      | e :: rest => do
        let plain ← escaped? e
        let (tail, rest) ← stringFrom? fuel rest
        return (plain :: tail, rest)
      | [] => none
    else do
      let (tail, rest) ← stringFrom? fuel rest
      return (c :: tail, rest)

def string? (t : Text) : Option (Text × Text) := stringFrom? (t.length + 1) t

def fraction (t : Text) : Text × Text :=
  match t with
  | '.' :: rest =>
    let figures := rest.takeWhile isFigure
    if figures = [] then ([], t) else (figures, rest.dropWhile isFigure)
  | _ => ([], t)

def exponent? (t : Text) : Option Int × Text :=
  match t with
  | e :: rest =>
    if e = 'e' ∨ e = 'E' then
      let (negative, tail) :=
        match rest with
        | '-' :: tail => (true, tail)
        | '+' :: tail => (false, tail)
        | _ => (false, rest)
      let figures := tail.takeWhile isFigure
      if figures = [] then (none, t)
      else
        let n : Int := figuresValue figures
        (some (if negative then -n else n), tail.dropWhile isFigure)
    else (none, t)
  | [] => (none, t)

def number? (negative : Bool) (t : Text) : Option (Datum × Text) :=
  let whole :=
    match t with
    | '0' :: _ => ['0']
    | _ => t.takeWhile isFigure
  if whole = [] then none
  else
    let (decimals, rest) := fraction (t.drop whole.length)
    let (exponent, rest) := exponent? rest
    if decimals = [] ∧ exponent = none then
      if Integer.digitLimit < whole.length then none
      else
        let n : Int := figuresValue whole
        some (.int (if negative then -n else n), rest)
    else
      let e : Int := exponent.getD 0 - decimals.length
      some (.real (Double.ofDecimal negative (figuresValue (whole ++ decimals)) e), rest)

def words : Assoc Datum :=
  [("null".toList, .null), ("true".toList, .bool true), ("false".toList, .bool false),
    ("NaN".toList, .real .notANumber), ("Infinity".toList, .real (.infinite false)),
    ("-Infinity".toList, .real (.infinite true))]

def word? (t : Text) : Option (Datum × Text) :=
  (List.find? (fun (word, _) => word.isPrefixOf t) words).map fun (word, d) => (d, t.drop word.length)

def depthLimit : Nat := 980

mutual

/-- A value at the front of `t`, which starts with no space. Every step takes a character. -/
def value? : Nat → Nat → Text → Option (Datum × Text)
  | 0, _, _ => none
  | fuel + 1, depth, t =>
    match t with
    | [] => none
    | '"' :: rest => (string? rest).map fun (s, rest) => (.text s, rest)
    | '[' :: rest =>
      match depth, skipSpace rest with
      | 0, _ => none
      | _, ']' :: rest => some (.list [], rest)
      | depth + 1, rest => (items? fuel depth rest).map fun (ds, rest) => (.list ds, rest)
    | '\x7b' :: rest =>
      match depth, skipSpace rest with
      | 0, _ => none
      | _, '\x7d' :: rest => some (.record [], rest)
      | depth + 1, rest =>
        (members? fuel depth rest).map fun (fields, rest) => (.record (Assoc.ofPairs fields), rest)
    | c :: rest =>
      match word? t with
      | some found => some found
      | none => if c = '-' then number? true rest else number? false t

def items? : Nat → Nat → Text → Option (List Datum × Text)
  | 0, _, _ => none
  | fuel + 1, depth, t => do
    let (d, rest) ← value? fuel depth t
    match skipSpace rest with
    | ']' :: rest => return ([d], rest)
    | ',' :: rest =>
      let (ds, rest) ← items? fuel depth (skipSpace rest)
      return (d :: ds, rest)
    | _ => none

def members? : Nat → Nat → Text → Option (List (Text × Datum) × Text)
  | 0, _, _ => none
  | fuel + 1, depth, t =>
    match t with
    | '"' :: rest => do
      let (key, rest) ← string? rest
      match skipSpace rest with
      | ':' :: rest =>
        let (d, rest) ← value? fuel depth (skipSpace rest)
        match skipSpace rest with
        | '\x7d' :: rest => return ([(key, d)], rest)
        | ',' :: rest =>
          let (fields, rest) ← members? fuel depth (skipSpace rest)
          return ((key, d) :: fields, rest)
        | _ => none
      | _ => none
    | _ => none

end

end JsonReader

def Datum.ofJson? (t : Text) : Option Datum :=
  let t := JsonReader.skipSpace t
  match JsonReader.value? (t.length + 1) JsonReader.depthLimit t with
  | some (d, rest) => if JsonReader.skipSpace rest = [] then some d else none
  | none => none

end SearchBox
