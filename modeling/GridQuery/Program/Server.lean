import GridQuery.Http.Server
import GridQuery.Program.Address
import GridQuery.Program.Surroundings

/-!
# The server

Loads the views, reaches the database and serves the HTTP interface until it is interrupted.
-/

namespace GridQuery.Program.Server

variable {σ : Type}

/-- A server that listens: what it has shown so far, and what it serves. -/
structure Listening (σ : Type) where
  out : String
  site : Http.Site σ
  /-- The state before the first request. -/
  state : ServiceState σ

def timeoutText : Option Nat → String
  | some ms => "Some(" ++ Text.duration ms ++ ")"
  | none => "None"

def settingsLine (d : DatabaseSettings) (v : ServiceSettings) : String :=
  "> Dialect: " ++ d.dialect.name ++
    " (schema cache: " ++ (if v.schemaCache then "true" else "false") ++
    ", timeout: " ++ timeoutText v.timeout ++ ", max page size: " ++ toString v.maxPageSize ++ ")"

def viewsLine (r : Registry) : String :=
  if r.isEmpty then "> No views configured; POST /api/views/\x7bview\x7d will answer 404."
  else "> Views: " ++ String.intercalate ", " r.names

/-- Starts the server, or says how it ended. -/
def start (s : Surroundings σ) : Except Transcript (Listening σ) :=
  match s.settings with
  | .error c => .error (.failed "" "" c)
  | .ok (d, v) =>
    let out := lines [settingsLine d v, "> Loading views from " ++ v.viewsFile ++ "..."]
    match s.views v.viewsFile with
    | .error c => .error (.failed out "" c)
    | .ok views =>
      let out := out ++ lines [viewsLine views, "> Connecting to database..."]
      match s.connect d with
      | .error e =>
        .error (.failed out "" ⟨"failed to open database pool", e.message :: e.cause?.toList⟩)
      | .ok r =>
        let out := out ++
          lines ["> DataTableService initialized successfully.", "> Starting API server..."]
        match Endpoint.read v.bindAddress with
        | .error f => .error (.failed out "" ⟨f.message, []⟩)
        | .ok place =>
          let address := "http://" ++ place.host ++ ":" ++ toString place.port
          .ok {
            out := out ++ lines ["> API server listening on " ++ address,
              "> Swagger UI available at " ++ address ++ "/swagger-ui"]
            site := ⟨⟨r.backend, v.timeout⟩, views, v.maxPageSize⟩
            state := ⟨if v.schemaCache then some .empty else none, r.world, []⟩ }

/-- What is left of a server that is interrupted. -/
def interrupted (l : Listening σ) : Transcript :=
  ⟨l.out ++ lines ["", "> Shutdown signal received (Ctrl+C)...", "> Graceful shutdown complete."],
    "", 0⟩

end GridQuery.Program.Server
