import SearchBox.Query

/- SQL text of filters and statements for three systems. -/
namespace SearchBox

inductive SqlDialect where
  | postgresql
  | sqlite
  | mysql
  deriving DecidableEq, Repr

namespace SqlDialect

def ofName? (name : Text) : Option SqlDialect :=
  Assoc.find?
    [("postgresql".toList, .postgresql), ("sqlite".toList, .sqlite), ("mysql".toList, .mysql)] name

/-- Percent signs are written twice where the text passes through a formatter. -/
def doublesPercent : SqlDialect → Bool
  | .postgresql | .mysql => true
  | .sqlite => false

def identifierQuote : SqlDialect → Char
  | .mysql => '\x60'
  | _ => '"'

def doubledInText (d : SqlDialect) (c : Char) : Bool :=
  c = '\'' || (c = '%' && d.doublesPercent) || (c = '\\' && d = .mysql)

def doubledInName (d : SqlDialect) (c : Char) : Bool :=
  c = d.identifierQuote || (c = '%' && d.doublesPercent)

end SqlDialect

namespace Sql

def double (twice : Char → Bool) (t : Text) : Text :=
  t.flatMap fun c => if twice c then [c, c] else [c]

def textLiteral (d : SqlDialect) (t : Text) : Text := '\'' :: double d.doubledInText t ++ ['\'']

def reservedWords : List Text := ["order".toList, "select".toList]

def isNameCharacter (c : Char) : Bool :=
  let n := c.toNat
  (48 ≤ n && n ≤ 57) || (65 ≤ n && n ≤ 90) || (97 ≤ n && n ≤ 122) || c = '_' || c = '$'

def startsBadly : Text → Bool
  | [] => false
  | c :: _ => (48 ≤ c.toNat && c.toNat ≤ 57) || c = '$'

def needsQuotes (name : Text) : Bool :=
  reservedWords.contains name.lower || startsBadly name || !name.all isNameCharacter ||
    name.lower != name

def identifier (d : SqlDialect) (name : Text) : Text :=
  if needsQuotes name then
    d.identifierQuote :: double d.doubledInName name ++ [d.identifierQuote]
  else name

def column (d : SqlDialect) (table : Text) (field : Field) : Text :=
  identifier d table ++ '.' :: identifier d field.name

def operand (d : SqlDialect) : Operand → Except Fault Text
  | .null => .ok "NULL".toList
  | .text t => .ok (textLiteral d t)
  | .int n => Fault.orUnprintable (Integer.written? n)
  | .list _ => .error .unprintableLiteral

def typedItem (d : SqlDialect) (type : FieldType) (item : Operand) : Except Fault Text :=
  match item, type with
  | .null, _ => .ok "NULL".toList
  | .text t, .string | .text t, .text => .ok (textLiteral d t)
  | .int n, .int => Fault.orUnprintable (Integer.written? n)
  | .text t, .int =>
    match Integer.read t with
    | .ok n => .ok (Text.ofInt n)
    | .error _ => .error .unprintableLiteral
  | .int n, .bool =>
    if n = 0 then .ok (if d = .sqlite then "0" else "false").toList
    else if n = 1 then .ok (if d = .sqlite then "1" else "true").toList
    else .error .unprintableLiteral
  | _, _ => .error .unprintableLiteral

/-- The first item decides the type of a whole list; a null leaves it to the field. -/
def listType (field : Field) : List Operand → FieldType
  | .text _ :: _ => .string
  | .int _ :: _ => .int
  | _ => field.type

def member (d : SqlDialect) (subject : Text) (field : Field) (negated : Bool) :
    List Operand → Except Fault Text
  | [] =>
    let empty := "SELECT 1 FROM (SELECT 1) WHERE 1!=1".toList
    .ok <| match d, negated with
      | .sqlite, false => subject ++ " IN (".toList ++ empty ++ [')']
      | .sqlite, true => '(' :: subject ++ " NOT IN (".toList ++ empty ++ "))".toList
      | _, false => subject ++ " IN (NULL) AND (1 != 1)".toList
      | _, true => '(' :: subject ++ " NOT IN (NULL) OR (1 = 1))".toList
  | items => do
    let written ← items.mapM (typedItem d (listType field items))
    let list := Text.join ", ".toList written
    return if negated then '(' :: subject ++ " NOT IN (".toList ++ list ++ "))".toList
      else subject ++ " IN (".toList ++ list ++ [')']

def comparisonSign : Comparison → Text
  | .equal => "=".toList
  | .notEqual => "!=".toList
  | .greater => ">".toList
  | .greaterEqual => ">=".toList
  | .less => "<".toList
  | .lessEqual => "<=".toList

def comparison (d : SqlDialect) (subject : Text) (c : Comparison) (value : Operand) :
    Except Fault Text :=
  match c, value with
  | .equal, .null => .ok (subject ++ " IS NULL".toList)
  | .notEqual, .null => .ok (subject ++ " IS NOT NULL".toList)
  | _, _ => do return subject ++ ' ' :: comparisonSign c ++ ' ' :: (← operand d value)

def textForm (d : SqlDialect) (subject : Text) (field : Field) : Text :=
  if field.type.isText then subject
  else
    "CAST(".toList ++ subject ++ (if d = .mysql then " AS CHAR)" else " AS VARCHAR)").toList

def matching (d : SqlDialect) (form : Text) (style : MatchStyle) (pattern : Text) : Text :=
  match style with
  | .like => form ++ " LIKE ".toList ++ pattern
  | .ilike =>
    if d = .postgresql then form ++ " ILIKE ".toList ++ pattern
    else "lower(".toList ++ form ++ ") LIKE lower(".toList ++ pattern ++ [')']
  | .regexp => form ++ (if d = .postgresql then " ~ " else " REGEXP ").toList ++ pattern

def formatLetter : DatePart → Char
  | .day => 'd'
  | .month => 'm'
  | _ => 'Y'

def part (d : SqlDialect) (subject : Text) (p : DatePart) (form : PartForm) : Text :=
  match form with
  | .number =>
    if d = .sqlite then
      "CAST(STRFTIME('%".toList ++ formatLetter p :: "', ".toList ++ subject ++ ") AS INTEGER)".toList
    else "EXTRACT(".toList ++ p.name ++ " FROM ".toList ++ subject ++ [')']
  | .function => p.name ++ '(' :: subject ++ [')']
  | .conversion =>
    let target :=
      if p = .date then "DATE" else if d = .postgresql then "TIME WITHOUT TIME ZONE" else "TIME"
    "CAST(".toList ++ subject ++ " AS ".toList ++ target.toList ++ [')']

def clause (d : SqlDialect) (table : Text) : Clause → Except Fault Text
  | .compare field c value => comparison d (column d table field) c value
  | .matching field style pattern => do
    return matching d (textForm d (column d table field) field) style (← operand d pattern)
  | .member field negated values => member d (column d table field) field negated values
  | .between field low high => do
    return column d table field ++ " BETWEEN ".toList ++ (← operand d low) ++ " AND ".toList ++
      (← operand d high)
  | .part field p form value => comparison d (part d (column d table field) p form) .equal value

end Sql

namespace Formula
variable {α : Type}

def isAny : Formula α → Bool
  | .any _ => true
  | _ => false

mutual

def text (write : α → Except Fault Text) : Formula α → Except Fault Text
  | .one item => write item
  | .all parts => do return Text.join " AND ".toList (← partTexts write true parts)
  | .any parts => do return Text.join " OR ".toList (← partTexts write false parts)

/-- An OR within an AND stands in parentheses. -/
def partTexts (write : α → Except Fault Text) (withinAll : Bool) :
    List (Formula α) → Except Fault (List Text)
  | [] => return []
  | part :: rest => do
    let written ← text write part
    let others ← partTexts write withinAll rest
    return (if withinAll && part.isAny then '(' :: written ++ [')'] else written) :: others

end

end Formula

namespace Query

def whereText (d : SqlDialect) (q : Query) : Except Fault (Option Text) :=
  match q.whereClause with
  | none => .ok none
  | some f => (f.text (Sql.clause d q.table.name)).map some

def statementText (d : SqlDialect) (q : Query) : Except Fault Text := do
  let filters ← q.whereText d
  let columns := q.table.fields.map (Sql.column d q.table.name)
  return "SELECT ".toList ++ Text.join ", ".toList columns ++ " \nFROM ".toList ++
    Sql.identifier d q.table.name ++
    match filters with
    | none => []
    | some text => " \nWHERE ".toList ++ text

end Query
end SearchBox
