import SearchBox.Assoc
import SearchBox.Fault

/- Drivers: what reaches the systems that a database may run on. A system is named alone, or with one of its
   drivers behind a plus sign. Only the drivers of SQLite are at hand. -/
namespace SearchBox.Driver

def group (sources : List (String × String)) : Assoc Text :=
  sources.map fun (driver, source) => (driver.toList, source.toList)

def ofPostgresql : Assoc Text :=
  group [("base", "psycopg"), ("psycopg", "psycopg"), ("psycopg_async", "psycopg"),
    ("psycopg2", "psycopg2"), ("psycopg2cffi", "psycopg2cffi"), ("asyncpg", "asyncpg"),
    ("pg8000", "pg8000")]

def ofMysql : Assoc Text :=
  group [("base", "MySQLdb"), ("mysqldb", "MySQLdb"), ("pymysql", "pymysql"), ("aiomysql", "aiomysql"),
    ("asyncmy", "asyncmy"), ("cymysql", "cymysql"), ("mariadbconnector", "mariadb"),
    ("mysqlconnector", "mysql"), ("pyodbc", "pyodbc")]

def ofMssql : Assoc Text :=
  group [("base", "pyodbc"), ("pyodbc", "pyodbc"), ("pymssql", "pymssql"), ("aioodbc", "aioodbc"),
    ("mssqlpython", "mssql_python")]

def ofOracle : Assoc Text :=
  group [("base", "oracledb"), ("oracledb", "oracledb"), ("oracledb_async", "oracledb"),
    ("cx_oracle", "cx_Oracle")]

def ofSqlite : Assoc Text := group [("aiosqlite", "aiosqlite"), ("pysqlcipher", "pysqlcipher3")]

def missing : Assoc (Assoc Text) :=
  [("postgresql".toList, ofPostgresql), ("mysql".toList, ofMysql), ("mariadb".toList, ofMysql),
    ("mssql".toList, ofMssql), ("oracle".toList, ofOracle), ("sqlite".toList, ofSqlite)]

def isAtHand (dialect driver : Text) : Bool :=
  dialect = "sqlite".toList && (driver = "base".toList || driver = "pysqlite".toList)

def load (system : Text) : Except Fault Unit :=
  let named (dialect driver : Text) : Except Fault Unit :=
    if isAtHand dialect driver then .ok ()
    else match (missing.find? dialect).bind (·.find? driver) with
      | some source => .error (.missingDriver source)
      | none => .error (.unknownDriver (system.map fun c => if c = '+' then '.' else c))
  match Text.splitAt '+' system with
  | [dialect] => named dialect "base".toList
  | [dialect, driver] => named dialect driver
  | _ => .error .severalDrivers

end SearchBox.Driver
