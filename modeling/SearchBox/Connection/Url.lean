import SearchBox.JsonReader
import SearchBox.Settings.Environment

/- The address of the database: given as a whole, or put together from parts. Each part comes from the
   environment, under the program's own name or under the one that database tools share, else from a
   file of parts, else it has its standard value. -/
namespace SearchBox.Connection

structure Source where
  own : Text
  shared : Text
  standard : Text
  deriving DecidableEq, Repr

def userSource : Source := ⟨"DB_USER".toList, "PGUSER".toList, "app".toList⟩

def passwordSource : Source := ⟨"DB_PASSWORD".toList, "PGPASSWORD".toList, "app".toList⟩

def nameSource : Source := ⟨"DB_NAME".toList, "PGDATABASE".toList, "app".toList⟩

def hostSource : Source := ⟨"DB_HOST".toList, "PGHOST".toList, "127.0.0.1".toList⟩

def portSource : Source := ⟨"DB_PORT".toList, "PGPORT".toList, "5432".toList⟩

def partsOfFile (file : FileContent) : Assoc Text :=
  match (file.bind Utf8.decode?).bind Datum.ofJson? with
  | some (.record fields) => fields.map fun (key, d) => (key, d.plain)
  | _ => []

/-- The file is asked only if the shared variable is missing altogether; a value that is empty gives way
    to the standard. -/
def Source.value (s : Source) (env : Environment) (file : Assoc Text) : Text :=
  let found :=
    match env.nonEmpty? s.own with
    | some v => some v
    | none =>
      match env.find? s.shared with
      | some v => some v
      | none => file.find? s.own
  match found with
  | some (c :: v) => c :: v
  | _ => s.standard

def assembled (env : Environment) (file : Assoc Text) : Text :=
  "postgresql+psycopg://".toList ++ userSource.value env file ++
    ':' :: Percent.encode (passwordSource.value env file) ++
    '@' :: hostSource.value env file ++ ':' :: portSource.value env file ++
    '/' :: nameSource.value env file

def url (env : Environment) (parts : FileContent) : Text :=
  match env.nonEmpty? "DATABASE_URL".toList with
  | some given => given
  | none => assembled env (partsOfFile parts)

end SearchBox.Connection
