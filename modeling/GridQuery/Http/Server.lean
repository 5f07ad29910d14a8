import GridQuery.Engine.Service
import GridQuery.Http.MediaType
import GridQuery.Http.Path
import GridQuery.View.Basic
import GridQuery.Widget.Query

/-!
# The HTTP interface

Three routes: the state of the database, a page of a view, and the columns of a view. A page
is asked for with the body that the table widget posts; its reply carries the number of
diagnostics in a header.
-/

namespace GridQuery.Http

structure Request where
  method : String
  /-- The path, and a query that is not looked at. -/
  target : String
  contentType : Option String
  body : String

inductive Content where
  | empty
  | text (s : String)
  | json (v : Json)

structure Reply where
  status : Nat
  /-- The number of diagnostics, for a page. -/
  diagnostics : Option Nat
  content : Content

namespace Reply

def json (status : Nat) (v : Json) : Reply := ⟨status, none, .json v⟩

def empty (status : Nat) : Reply := ⟨status, none, .empty⟩

/-- The body of a reply that reports a failure. -/
def failureJson (message : String) : Json :=
  .ofPairs [("success", .bool false), ("error", .string message)]

def failure (status : Nat) (message : String) : Reply := json status (failureJson message)

/-- The reply to a HEAD request. -/
def withoutContent (r : Reply) : Reply := { r with content := .empty }

end Reply

/-- What the interface serves. -/
structure Site (σ : Type) where
  service : Service σ
  views : Registry
  /-- The greatest number of rows on a page. -/
  maxPageSize : Nat

/-! ## Bodies -/

/-- Why a body cannot be used. -/
inductive BodyFault where
  | notJson
  | tooLong
  | malformed
  | wrongForm
deriving DecidableEq, Repr

namespace BodyFault

def reason : BodyFault → String
  | .notJson => "Expected request with `Content-Type: application/json`"
  | .tooLong => "Failed to buffer the request body"
  | .malformed => "Failed to parse the request body as JSON"
  | .wrongForm => "Failed to deserialize the JSON body into the target type"

def message (f : BodyFault) : String :=
  "Invalid JSON body: " ++ f.reason ++ " (expected a DataTables server-side request)"

/-- What a fault of decoding means for the client. -/
def ofDecode : DecodeFault → BodyFault
  | .malformed => .malformed
  | _ => .wrongForm

end BodyFault

/-- The greatest length of a body in bytes. -/
def maxBodySize : Nat := 2 * 0x100000

/-- The body of a request for a page. What follows the document is not looked at. -/
def readBody (r : Request) : Except BodyFault Widget.Body :=
  if !(r.contentType.map saysJson).getD false then .error .notJson
  else if maxBodySize < r.body.utf8ByteSize then .error .tooLong
  else (Document.decodeStart Widget.Body.read r.body).mapError BodyFault.ofDecode

/-! ## Replies -/

variable {σ : Type}

/-- The status of a failure. -/
def statusOf : EngineFailure → Nat
  | .invalidRequest _ => 400
  | .timeout .. => 504
  | .schema _ => 500
  | .execution _ => 500

/-- The reply to a failure, which is reported as well. -/
def failed (f : EngineFailure) : Serving σ Reply := do
  Serving.notify [if 500 ≤ statusOf f then .requestFailed f else .requestRejected f]
  return .failure (statusOf f) f.message

/-- The view that a path names, blanks around the name ignored. -/
def Site.viewOf (site : Site σ) (name : String) : Except Reply View :=
  match site.views.get? (Text.trim name) with
  | some v => .ok v
  | none => .error (.failure 404 ("View '" ++ Text.trim name ++ "' is not configured"))

/-- The state of the database. -/
def Site.health (site : Site σ) : Serving σ Reply := do
  let d := site.service.dialect
  let (r, w) := site.service.backend.ping.runFor none (← get).world
  modify fun s => { s with world := w }
  let data (status : String) : Json :=
    .ofPairs [("status", .string status), ("dialect", .string d.name)]
  match r with
  | some (.error e) =>
    Serving.notify [.healthCheckFailed e]
    return .json 503 (.ofPairs [("success", .bool false), ("data", data "unhealthy"),
      ("error", .string ("DB ping failed: " ++ e.message))])
  | _ => return .json 200 (.ofPairs [("success", .bool true), ("data", data "ok")])

/-- A page of a view. There is no reply if a transform has no result for a value. -/
def Site.page (site : Site σ) (v : View) (b : Widget.Body) : Serving σ (Option Reply) := do
  let asked := Diagnostics.collect b.findings
  Serving.notify (Notice.ofDiagnostics asked)
  match ← site.service.process (b.request v site.maxPageSize) with
  | .ok outcome =>
    return some ⟨200, some (asked.extend outcome.diagnostics).size, .json outcome.response.json⟩
  | .error (.failure f) => return some (← failed f)
  | .error .unwritable => return none

/-- The answer to a posted body. -/
def Site.query (site : Site σ) (name : String) (r : Request) : Serving σ (Option Reply) := do
  match site.viewOf name with
  | .error reply => return some reply
  | .ok v =>
    match readBody r with
    | .error f => return some (.failure 422 f.message)
    | .ok b => site.page v b

/-- A column of a view beside what the catalog says of its source. -/
def columnJson (schema : Schema) (c : Column) : Json :=
  let live := match schema.find? c.source with
    | some l => [("raw_type", Json.string l.rawType), ("category", .string l.category.key)]
    | none => []
  .ofPairs ([("exposed", .string c.exposed), ("source", .string c.source),
    ("searchable", .bool c.searchable), ("sortable", .bool c.sortable)] ++ live)

/-- The columns of a view. -/
def Site.schema (site : Site σ) (name : String) : Serving σ Reply := do
  match site.viewOf name with
  | .error reply => return reply
  | .ok v =>
    match ← site.service.describe v.table with
    | .error f => failed f
    | .ok schema =>
      return .json 200 (.ofPairs [("view", .string v.name), ("table", .string v.table),
        ("dialect", .string site.service.dialect.name),
        ("columns", .array (v.columns.map (columnJson schema)))])

/-! ## Routes -/

/-- What a path leads to. -/
inductive Route where
  | health
  | page (segment : String)
  | schema (segment : String)
deriving DecidableEq, Repr

def routeOf? (target : String) : Option Route :=
  match segments target with
  | ["health"] => some .health
  | ["api", "views", segment] => if segment.isEmpty then none else some (.page segment)
  | ["api", "views", segment, "schema"] => if segment.isEmpty then none else some (.schema segment)
  | _ => none

/-- The reply to a name that is no text. -/
def badName : Reply := ⟨400, none, .text "Invalid URL: Invalid UTF-8 in `view`"⟩

/-- The reply to a GET request for one of the routes that answer it. -/
def Site.get (site : Site σ) : Route → Serving σ Reply
  | .health => site.health
  | .schema segment =>
    match decodeSegment segment with
    | some name => site.schema name
    | none => return badName
  | .page _ => return .empty 405

/-- The reply to a request, if there is one. -/
def Site.respond (site : Site σ) (r : Request) : Serving σ (Option Reply) := do
  match routeOf? r.target with
  | none => return some (.empty 404)
  | some (.page segment) =>
    if r.method ≠ "POST" then return some (.empty 405)
    else
      match decodeSegment segment with
      | some name => site.query name r
      | none => return some badName
  | some route =>
    if r.method = "GET" then return some (← site.get route)
    else if r.method = "HEAD" then return some (← site.get route).withoutContent
    else return some (.empty 405)

end GridQuery.Http
