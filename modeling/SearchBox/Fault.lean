import SearchBox.Operand
import SearchBox.Text.Integer
import SearchBox.Text.Utf8

/- Why an operation was refused. The wording of every refusal is here; of a text that is no number, at most
   200 characters are shown. -/
namespace SearchBox

inductive TargetFault where
  | unbalancedBrackets
  | laterAddress
  | bracketedShortAddress
  | noAddress (given : Text)
  | unstable (authority : Text)
  | badLabel
  | longLabel
  | malformedPort (given : Text)
  | portRange
  | queryTwice
  deriving DecidableEq, Repr

inductive Fault where
  -- columns, search keys and grids
  | blankColumnName
  | blankSearchKey
  | missingGridName
  | duplicateGrid (shown : Text)
  | columnNameMissing
  | columnArguments (given : Nat)
  | queryArguments (given : Nat)
  /-- A value of a sort that is not made for what it is used for. -/
  | lacks (sort : Text) (feature : String)
  -- predicates
  | unknownKind (name : Text)
  | unknownPart (given : Operand)
  | missingOperand
  | missingPart
  -- filters
  | unsupportedOperator (given : Operand)
  | unknownColumn (given : Operand)
  | nullOperand
  | unknownConnective (given : Text)
  | tooFewBounds (given : Nat)
  | tooManyBounds
  | notASequence (sort : Text)
  | notAPair (sort : Text)
  | malformedInteger (given : Text)
  | integerTooLong (digits : Nat)
  /-- A number in a value has too many digits for the value to be written. -/
  | unprintableInteger
  -- search definitions
  | noListedColumn
  | invalidListedColumn (shown : Text)
  | notCallable
  | unsupportedDefinition (shown : Text)
  /-- A search callback refused its text in its own words. -/
  | callback (message : Text)
  -- tables and databases
  | unknownDialect (shown : Text)
  | duplicateColumn (column table : Text)
  | tableNotFound (name : Text)
  | unprintableLiteral
  | unbindableLiteral
  | oversizedInteger
  | database (message : Text)
  -- surroundings
  | undecodable (misfit : Utf8.Misfit)
  | embeddedNull
  | illegalVariableName
  | noHomeDirectory
  | unreadableUrl
  | severalDrivers
  | unknownDriver (name : Text)
  | missingDriver (name : Text)
  | unknownPlugin (name : Text)
  | invalidFileUrl (shown : Text)
  | notATruthValue (given : Text)
  | malformedReal (given : Text)
  | severalWholes
  | severalReals
  | missingFileName
  | noFileName
  | unknownLevel (name : Text)
  | notALevel (shown : Text)
  | fileNotFound (path : Text)
  | nameTooLong (path : Text)
  | target (f : TargetFault)
  | unhashable (sort : Text)
  | gridNameNotText (index : Nat) (sort : Text)
  deriving DecidableEq, Repr, Inhabited

def Utf8.Misfit.message (m : Utf8.Misfit) : Text :=
  let cause :=
    match m.defect with
    | .startByte => "invalid start byte"
    | .continuation => "invalid continuation byte"
    | .shortData => "unexpected end of data"
  let place :=
    match m.run with
    | [b] => "byte 0x".toList ++ Quoted.hex 2 b ++ " in position ".toList ++ Text.ofNat m.position
    | run => "bytes in position ".toList ++ Text.ofNat m.position ++ '-' ::
        Text.ofNat (m.position + run.length - 1)
  "'utf-8' codec can't decode ".toList ++ place ++ ": ".toList ++ cause.toList

def TargetFault.message : TargetFault → Text
  | .unbalancedBrackets => "Invalid IPv6 URL".toList
  | .laterAddress => "IPvFuture address is invalid".toList
  | .bracketedShortAddress => "An IPv4 address cannot be in brackets".toList
  | .noAddress given => Quoted.encode given ++ " does not appear to be an IPv4 or IPv6 address".toList
  | .unstable authority =>
    "netloc '".toList ++ authority ++ "' contains invalid characters under NFKC normalization".toList
  | .badLabel => "encoding with 'idna' codec failed (UnicodeError: label empty or too long)".toList
  | .longLabel => "encoding with 'idna' codec failed (UnicodeError: label too long)".toList
  | .malformedPort given => "Port could not be cast to integer value as ".toList ++ Quoted.encode given
  | .portRange => "Port out of range 0-65535".toList
  | .queryTwice => "Query string is defined in the path and as an argument".toList

def unprintableMessage : Text :=
  ("Exceeds the limit (4300 digits) for integer string conversion; " ++
    "use sys.set_int_max_str_digits() to increase the limit").toList

/-- A message about a value that cannot be written says just that. -/
def Operand.message (given : Operand) (words : Text → Text) : Text :=
  (given.written?.map words).getD unprintableMessage

def Fault.message : Fault → Text
  | .blankColumnName => "Columns require a non-empty name.".toList
  | .blankSearchKey => "The search key must be a non-empty string.".toList
  | .missingGridName => "Grids require a name.".toList
  | .duplicateGrid shown => "Duplicate grid name ".toList ++ shown
  | .columnNameMissing => "Grid.column() missing 1 required positional argument: 'name'".toList
  | .columnArguments given =>
    "Grid.column() takes from 2 to 3 positional arguments but ".toList ++ Text.ofNat (given + 1) ++
      " were given".toList
  | .queryArguments given =>
    "Grid.model() takes from 1 to 2 positional arguments but ".toList ++ Text.ofNat (given + 1) ++
      " were given".toList
  | .lacks sort feature =>
    '\'' :: sort ++ "' object has no attribute '".toList ++ feature.toList ++ ['\'']
  | .unknownKind name => Quoted.encode name ++ " is not a valid OperatorKind".toList
  | .unknownPart given => given.message fun t => t ++ " is not a valid DatePart".toList
  | .missingOperand => "tuple index out of range".toList
  | .missingPart => "'NoneType' object has no attribute 'value'".toList
  | .unsupportedOperator given => given.message fun t => "Unsupported comparison operator ".toList ++ t
  | .unknownColumn given => given.message id
  | .nullOperand =>
    ("Only '=', '!=', 'is_()', 'is_not()', 'is_distinct_from()', 'is_not_distinct_from()' " ++
      "operators can be used with None/True/False").toList
  | .unknownConnective given =>
    "Unknown boolean ".toList ++ Quoted.encode given ++ "; expected 'and' or 'or'".toList
  | .tooFewBounds given =>
    "not enough values to unpack (expected 2, got ".toList ++ Text.ofNat given ++ [')']
  | .tooManyBounds => "too many values to unpack (expected 2)".toList
  | .notASequence sort => '\'' :: sort ++ "' object is not iterable".toList
  | .notAPair sort => "cannot unpack non-iterable ".toList ++ sort ++ " object".toList
  | .malformedInteger given =>
    "invalid literal for int() with base 10: ".toList ++ (Quoted.encode given).take 200
  | .integerTooLong digits =>
    "Exceeds the limit (4300 digits) for integer string conversion: value has ".toList ++
      Text.ofNat digits ++ " digits; use sys.set_int_max_str_digits() to increase the limit".toList
  | .unprintableInteger => unprintableMessage
  | .noListedColumn => "A column list search needs at least one column.".toList
  | .invalidListedColumn shown => "Invalid column name in column list search: ".toList ++ shown
  | .notCallable => "A custom search needs a callable.".toList
  | .unsupportedDefinition shown => "Unsupported quick search definition: ".toList ++ shown
  | .callback message => message
  | .unknownDialect shown => shown
  | .duplicateColumn column table =>
    "A column with name ".toList ++ Quoted.encode column ++ " is already present in table ".toList ++
      Quoted.encode table ++ ['.']
  | .tableNotFound name => "Table not found: ".toList ++ Quoted.encode name
  | .unprintableLiteral => "Could not render a literal value".toList
  | .unbindableLiteral => "Could not bind a literal value".toList
  | .oversizedInteger => "Python int too large to convert to SQLite INTEGER".toList
  | .database message => message
  | .undecodable misfit => misfit.message
  | .embeddedNull => "embedded null byte".toList
  | .illegalVariableName => "illegal environment variable name".toList
  | .noHomeDirectory => "Could not determine home directory.".toList
  | .unreadableUrl => "Could not parse SQLAlchemy URL from given URL string".toList
  | .unknownDriver name => "Can't load plugin: sqlalchemy.dialects:".toList ++ name
  | .missingDriver name => "No module named ".toList ++ Quoted.encode name
  | .severalDrivers => "too many values to unpack (expected 2)".toList
  | .unknownPlugin name => "Can't load plugin: sqlalchemy.plugins:".toList ++ name
  | .invalidFileUrl shown =>
    "Invalid SQLite URL: ".toList ++ shown ++
      ("\nValid SQLite URL forms are:\n sqlite:///:memory: (or, sqlite://)\n" ++
        " sqlite:///relative/path/to/file.db\n sqlite:////absolute/path/to/file.db").toList
  | .notATruthValue given => "String is not true/false: ".toList ++ Quoted.encode given
  | .malformedReal given => "could not convert string to float: ".toList ++ Quoted.encode given
  | .severalWholes =>
    ("int() argument must be a string, a bytes-like object or a real number, " ++
      "not 'tuple'").toList
  | .severalReals => "float() argument must be a string or a real number, not 'tuple'".toList
  | .missingFileName => "unsupported operand type(s) for +=: 'NoneType' and 'str'".toList
  | .noFileName => "expected str, bytes or os.PathLike object, not NoneType".toList
  | .unknownLevel name => "Unknown level: ".toList ++ Quoted.encode name
  | .notALevel shown => "Level not an integer or a valid string: ".toList ++ shown
  | .fileNotFound path => "[Errno 2] No such file or directory: ".toList ++ Quoted.encode path
  | .nameTooLong path => "[Errno 36] File name too long: ".toList ++ Quoted.encode path
  | .target f => f.message
  | .unhashable sort => "unhashable type: '".toList ++ sort ++ ['\'']
  | .gridNameNotText index sort =>
    "sequence item ".toList ++ Text.ofNat index ++ ": expected str instance, ".toList ++ sort ++
      " found".toList

def Fault.orUnprintable (written : Option Text) : Except Fault Text :=
  written.elim (.error .unprintableInteger) .ok

/-- A refusal that shows a value is another one if the value cannot be written. -/
def Fault.showing (refusal : Text → Fault) (written : Option Text) : Fault :=
  written.elim .unprintableInteger refusal

def Integer.ofText (t : Text) : Except Fault Int :=
  match Integer.read t with
  | .ok n => .ok n
  | .error .malformed => .error (.malformedInteger t)
  | .error (.tooLong digits) => .error (.integerTooLong digits)

end SearchBox
