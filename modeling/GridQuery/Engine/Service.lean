import GridQuery.Backend.Basic
import GridQuery.Engine.Cache
import GridQuery.Engine.Event

/-!
# Serving requests

A request is checked, the columns of its table are looked up, in the cache or in the catalog,
the request is planned, the plan is run, and its rows become records. The catalog and the page
each have the same time to answer.

The engine's state is its cache, the backend's world, and the notices so far.
-/

namespace GridQuery

structure Service (σ : Type) where
  backend : Backend σ
  /-- Milliseconds for the catalog, and again for a page. -/
  timeout : Option Nat

/-- What serving changes. -/
structure ServiceState (σ : Type) where
  /-- No cache if schemas are not to be kept. -/
  cache : Option Cache
  world : σ
  notices : List Notice

/-- A step of serving. -/
abbrev Serving (σ : Type) := StateM (ServiceState σ)

namespace Serving

variable {σ : Type}

def notify (ns : List Notice) : Serving σ Unit :=
  modify fun s => { s with notices := s.notices ++ ns }

end Serving

/-- The answer to a request. -/
structure Response where
  draw : Json
  total : Nat
  filtered : Nat
  data : List Record

/-- A response with everything diagnosed on the way. -/
structure Outcome where
  response : Response
  diagnostics : Diagnostics

/-- Why there is no response. -/
inductive ProcessFault where
  | failure (f : EngineFailure)
  /-- A transform has no result for a value. -/
  | unwritable

/-- The counts that the plan's two statements may race for never show more rows found than
there are. -/
def Response.ofPage (draw : Json) (p : PageRows) (data : List Record) : Response :=
  ⟨draw, p.total, min p.filtered p.total, data⟩

def Response.json (r : Response) : Json :=
  .ofPairs [("draw", r.draw), ("recordsTotal", .ofNat r.total),
    ("recordsFiltered", .ofNat r.filtered), ("data", .array (r.data.map .object))]

namespace Service

variable {σ α : Type}

def dialect (s : Service σ) : Dialect := s.backend.dialect

/-- Runs an operation of the backend within the allowed time. -/
def withDeadline (s : Service σ) (table : String) (a : Action σ α) :
    Serving σ (Except EngineFailure α) := do
  let (r, w) := a.runFor s.timeout (← get).world
  modify fun st => { st with world := w }
  match r, s.timeout with
  | some v, _ => return .ok v
  | none, some after =>
    Serving.notify [.deadlineElapsed table after]
    return .error (.timeout s.dialect table after)
  | none, none => return .error (.timeout s.dialect table 0)

/-! ## Columns of a table -/

/-- The cached schema of a table. -/
def lookUp (s : Service σ) (table : String) : Serving σ (Option Schema) := do
  return (← get).cache.bind (·.get? ⟨s.dialect, table⟩)

/-- The schema of a table from the catalog. -/
def readCatalog (s : Service σ) (table : String) : Serving σ (Except EngineFailure Schema) := do
  match ← s.withDeadline table (s.backend.describe table) with
  | .error f => return .error f
  | .ok (.error f) => return .error (.schema f)
  | .ok (.ok schema) =>
    Serving.notify [.introspected schema.length]
    return .ok schema

/-- Stores a schema that was read, and returns the one that is stored. -/
def store (s : Service σ) (table : String) (schema : Schema) : Serving σ Schema := do
  let st ← get
  match st.cache with
  | none => return schema
  | some c =>
    let (stored, c) := c.insert ⟨s.dialect, table⟩ schema
    set { st with cache := some c }
    return stored

/-- Reads the catalog and stores what it says. -/
def introspect (s : Service σ) (table : String) : Serving σ (Except EngineFailure Schema) := do
  match ← s.readCatalog table with
  | .error f => return .error f
  | .ok schema => return .ok (← s.store table schema)

/-- The columns of a table. -/
def describe (s : Service σ) (table : String) : Serving σ (Except EngineFailure Schema) := do
  match ← s.lookUp table with
  | some schema => return .ok schema
  | none => s.introspect table

/-- Stores the schemas that were read, in their order. -/
def storeAll (s : Service σ) (table : String) :
    List (Except EngineFailure Schema) → Serving σ (List (Except EngineFailure Schema))
  | [] => return []
  | .error f :: rest => return .error f :: (← s.storeAll table rest)
  | .ok schema :: rest => do
    let stored ← s.store table schema
    return .ok stored :: (← s.storeAll table rest)

/-- Several looks at one table that start together, where reading the catalog takes time: all
of them look into the cache before any has read the catalog. -/
def describeTogether (s : Service σ) (table : String) (n : Nat) :
    Serving σ (List (Except EngineFailure Schema)) := do
  match ← s.lookUp table with
  | some schema => return List.replicate n (.ok schema)
  | none =>
    let read ← (List.replicate n table).mapM s.readCatalog
    s.storeAll table read

/-- Forgets what is cached for a table. -/
def invalidate (table : String) : Serving σ Unit :=
  modify fun st => { st with cache := st.cache.map (·.invalidate table) }

/-! ## Requests -/

/-- Plans a request against a schema. -/
def compile (s : Service σ) (r : Request) (schema : Schema) :
    Serving σ (Except EngineFailure (Plan × Diagnostics)) := do
  match r.check with
  | .error f => return .error (.invalidRequest f)
  | .ok () =>
    let ds := Diagnostics.collect (Plan.findings r schema)
    Serving.notify (Notice.ofDiagnostics ds)
    match Plan.ofRequest s.dialect r schema with
    | .error f => return .error (.invalidRequest f)
    | .ok p => return .ok (p, ds)

/-- Runs a plan and makes the response to its request. -/
def run (s : Service σ) (r : Request) (p : Plan) (ds : Diagnostics) :
    Serving σ (Except ProcessFault Outcome) := do
  Serving.notify [.planned "data statement" p.data.sql,
    .planned "filtered count statement" p.filteredCount.sql,
    .planned "total count statement" p.totalCount.sql]
  match ← s.withDeadline r.table (s.backend.fetchPage p) with
  | .error f => return .error (.failure f)
  | .ok (.error f) => return .error (.failure (.execution f))
  | .ok (.ok page) =>
    match Column.records r.columns page.rows with
    | none => return .error .unwritable
    | some data =>
      Serving.notify [.servedPage data.length page.filtered page.total ds.size]
      return .ok ⟨Response.ofPage r.draw page data, ds⟩

/-- Serves a request from beginning to end. -/
def process (s : Service σ) (r : Request) : Serving σ (Except ProcessFault Outcome) := do
  match r.check with
  | .error f => return .error (.failure (.invalidRequest f))
  | .ok () =>
    match ← s.describe r.table with
    | .error f => return .error (.failure f)
    | .ok schema =>
      match ← s.compile r schema with
      | .error f => return .error (.failure f)
      | .ok (p, ds) => s.run r p ds

end Service

end GridQuery
