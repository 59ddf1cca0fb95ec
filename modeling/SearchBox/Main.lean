import SearchBox.CommandLine
import SearchBox.Connection.Engine

/- The program around the command line. An address of a database is taken from the environment; tables
   themselves are out of reach, so one that is asked for is not found. -/
namespace SearchBox.CommandLine

def connectionVariables : List String :=
  ["DATABASE_URL", "DB_USER", "DB_PASSWORD", "DB_NAME", "DB_HOST", "DB_PORT", "PGUSER", "PGPASSWORD",
    "PGDATABASE", "PGHOST", "PGPORT", "SQLALCHEMY_ECHO", "SQLALCHEMY_POOL_SIZE",
    "SQLALCHEMY_MAX_OVERFLOW", "SQLALCHEMY_POOL_PRE_PING"]

def readEnvironment : IO Environment := do
  let mut env : Environment := []
  for name in connectionVariables do
    if let some value ← IO.getEnv name then
      env := env.insert name.toList value.toList
  return env

end SearchBox.CommandLine

open SearchBox

def main (args : List String) : IO UInt32 := do
  let engine := ({} : EngineHolder).get (← CommandLine.readEnvironment) none none
  let db := engine.bind fun (_, e) => e.file.connect.map fun _ => Database.empty
  match CommandLine.run db (args.map String.toList) with
  | .ok lines =>
    for line in lines do
      IO.println (String.ofList line)
    return 0
  | .error .help =>
    IO.println (String.ofList CommandLine.usage)
    return 0
  | .error .usage =>
    IO.eprintln (String.ofList CommandLine.usage)
    return 2
  | .error (.fault f) =>
    IO.eprintln (String.ofList f.message)
    return 1
