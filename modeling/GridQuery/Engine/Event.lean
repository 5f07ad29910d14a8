import GridQuery.Engine.Failure
import GridQuery.Grid.Diagnostic
import GridQuery.Settings

/-!
# Log events

What the library reports while it works. A `Notice` says what happened, `Notice.event` how it
is logged: at which level, for which part of the library, and with which fields.
-/

namespace GridQuery

inductive LogLevel where
  | debug
  | info
  | warn
  | error
deriving DecidableEq, Repr

def LogLevel.name : LogLevel → String
  | .debug => "DEBUG"
  | .info => "INFO"
  | .warn => "WARN"
  | .error => "ERROR"

/-- An event of the log; its fields include the message. -/
structure LogEvent where
  level : LogLevel
  target : String
  fields : List (String × String)
deriving DecidableEq, Repr

/-- Something worth reporting. -/
inductive Notice where
  /-- The configured dialect is missing or unknown. -/
  | dialectFallback (value : String)
  | diagnosed (d : Diagnostic)
  /-- The catalog was read. -/
  | introspected (columns : Nat)
  /-- A statement of a plan stands. -/
  | planned (what sql : String)
  | servedPage (rows filtered total diagnostics : Nat)
  | deadlineElapsed (table : String) (after : Nat)
  | healthCheckFailed (e : DatabaseError)
  /-- A request ends in an answer that blames the client. -/
  | requestRejected (f : EngineFailure)
  /-- A request ends in an answer that blames the server. -/
  | requestFailed (f : EngineFailure)

namespace Notice

def flag (b : Bool) : String := if b then "true" else "false"

def event : Notice → LogEvent
  | .dialectFallback value =>
    ⟨.warn, "table_view_sql::infra::config",
      [("message", "DB_DIALECT is missing or unrecognized; falling back to mysql"),
        ("value", value)]⟩
  | .diagnosed d =>
    ⟨.warn, "table_view_sql::domain::diagnostics",
      [("message", d.text), ("column", d.column), ("kind", d.finding.shown),
        ("configuration", flag d.finding.isConfigurationWarning)]⟩
  | .introspected n =>
    ⟨.debug, "table_view_sql::app::data_table_service",
      [("message", "introspected table"), ("columns", toString n)]⟩
  | .planned what sql =>
    ⟨.debug, "table_view_sql::app::data_table_service", [("message", what), ("sql", sql)]⟩
  | .servedPage rows filtered total diagnostics =>
    ⟨.info, "table_view_sql::app::data_table_service",
      [("message", "served page"), ("rows", toString rows), ("filtered", toString filtered),
        ("total", toString total), ("diagnostics", toString diagnostics)]⟩
  | .deadlineElapsed table after =>
    ⟨.warn, "table_view_sql::app::data_table_service",
      [("message", "query deadline elapsed"), ("table", table), ("after", Text.duration after)]⟩
  | .healthCheckFailed e =>
    ⟨.warn, "table_view_sql::transport::http::handlers::health",
      [("message", "health check failed"), ("error", e.message)]⟩
  | .requestRejected f =>
    ⟨.info, "table_view_sql::transport::http::handlers::common",
      [("message", "request rejected"), ("error", f.message)]⟩
  | .requestFailed f =>
    ⟨.error, "table_view_sql::transport::http::handlers::common",
      [("message", "request failed"), ("error", f.message)]⟩

/-- The notices of reading the settings of a database. -/
def ofSettings (env : Environment) : List Notice :=
  if (DatabaseSettings.dialect? env).isSome then []
  else [.dialectFallback ((env "DB_DIALECT").getD "")]

/-- The notices of diagnostics, one for each. -/
def ofDiagnostics (ds : Diagnostics) : List Notice := ds.entries.map .diagnosed

end Notice

end GridQuery
