import GridQuery.Number.Integer
import GridQuery.Sql.Dialect
import GridQuery.Text.Blank
import GridQuery.Text.Case

/-!
# Settings

The settings of the programs, looked up by name. A setting that is absent or blank has its
default; of several settings that cannot be read the first in reading order is reported.
-/

namespace GridQuery

/-- Settings by name. -/
abbrev Environment := String → Option String

/-- What is wrong with the value of a setting. -/
inductive SettingReason where
  | integer (f : IntegerFault)
  | belowOne
  | notFlag
deriving DecidableEq, Repr

structure SettingFault where
  name : String
  value : String
  reason : SettingReason
deriving DecidableEq, Repr

namespace SettingFault

def reasonText : SettingReason → String
  | .integer f => f.message
  | .belowOne => "must be at least 1"
  | .notFlag => "expected true or false"

def message (f : SettingFault) : String :=
  "environment variable " ++ f.name ++ " has invalid value '" ++ f.value ++ "': " ++
    reasonText f.reason

end SettingFault

namespace Environment

/-- A number of a range. -/
def number (env : Environment) (name : String) (r : IntegerRange) (default : Nat) :
    Except SettingFault Nat :=
  match env name with
  | none => .ok default
  | some v =>
    if Text.allBlank v then .ok default
    else
      match r.read (Text.trim v) with
      | .ok n => .ok n.toNat
      | .error f => .error ⟨name, v, .integer f⟩

/-- A truth value. -/
def flag (env : Environment) (name : String) (default : Bool) : Except SettingFault Bool :=
  match env name with
  | none => .ok default
  | some v =>
    match Text.asciiLower (Text.trim v) with
    | "" => .ok default
    | "true" | "1" | "yes" | "on" => .ok true
    | "false" | "0" | "no" | "off" => .ok false
    | _ => .error ⟨name, v, .notFlag⟩

end Environment

/-- How the database is reached. -/
structure DatabaseSettings where
  dialect : Dialect
  host : String
  port : Nat
  user : String
  password : String
  database : String
  /-- Stands for all of the above but the dialect. -/
  url : Option String
  maxConnections : Nat
deriving DecidableEq, Repr

namespace DatabaseSettings

/-- The configured dialect, if its name is known. -/
def dialect? (env : Environment) : Option Dialect := (env "DB_DIALECT").bind Dialect.ofName?

def ofEnvironment (env : Environment) : Except SettingFault DatabaseSettings := do
  let dialect := (dialect? env).getD .mysql
  let port ← env.number "DB_PORT" .unsigned16 dialect.defaultPort
  let connections ← env.number "DB_MAX_CONNECTIONS" .unsigned32 5
  return {
    dialect := dialect
    host := (env "DB_HOST").getD "localhost"
    port := port
    user := (env "DB_USER").getD "root"
    password := (env "DB_PASSWORD").getD ""
    database := (env "DB_NAME").getD "test"
    url := (env "DATABASE_URL").filter (!Text.allBlank ·)
    maxConnections := max connections 1 }

end DatabaseSettings

/-- How requests are served. -/
structure ServiceSettings where
  /-- Milliseconds; none for no deadline. -/
  timeout : Option Nat
  schemaCache : Bool
  maxPageSize : Nat
  bindAddress : String
  viewsFile : String
deriving DecidableEq, Repr

namespace ServiceSettings

/-- Half a minute. -/
def defaultTimeout : Nat := 30000

def ofEnvironment (env : Environment) : Except SettingFault ServiceSettings := do
  let timeout ← env.number "QUERY_TIMEOUT_MS" .unsigned64 defaultTimeout
  let pageSize ← env.number "MAX_PAGE_SIZE" .unsigned64 1000
  if pageSize = 0 then throw ⟨"MAX_PAGE_SIZE", "0", .belowOne⟩
  let cache ← env.flag "SCHEMA_CACHE" true
  return {
    timeout := if timeout = 0 then none else some timeout
    schemaCache := cache
    maxPageSize := pageSize
    bindAddress := (env "BIND_ADDR").getD "0.0.0.0:3000"
    viewsFile := (env "VIEWS_FILE").getD "views.json" }

end ServiceSettings

end GridQuery
