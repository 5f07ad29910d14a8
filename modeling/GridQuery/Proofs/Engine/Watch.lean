import GridQuery.Proofs.Engine.Stage

/-!
# A service that is watched

A backend that keeps a list of what it was asked, and of what it answered or that it did not
answer in time. A service on it does what the service does without, and the list shows which of
its stages reached the backend.

Main results: `Service.run_describe_watched` and `Service.run_process_watched`.
-/

namespace GridQuery

variable {σ α : Type}

/-! ## Contacts -/

/-- What a backend was asked, with its answer if there was one in time. -/
inductive Contact where
  | catalog (table : String) (answer : Option (Except SchemaFailure Schema))
  | page (plan : Plan) (answer : Option (Except ExecutionFailure PageRows))

/-- The operation, with contacts noted by its answer. They are noted too if time runs out. -/
def Action.noting (note : Option α → List Contact) (a : Action σ α) :
    Action (σ × List Contact) α :=
  OptionT.mk do
    let t ← get
    let (answer, t') := (OptionT.run a).run ⟨t.left, t.world.1⟩
    set (⟨t'.left, (t'.world, t.world.2 ++ note answer)⟩ : Timed (σ × List Contact))
    return answer

/-- The backend with a list of the catalogs and pages that it was asked for. -/
def Backend.watched (b : Backend σ) : Backend (σ × List Contact) where
  dialect := b.dialect
  ping := b.ping.noting fun _ => []
  describe table := (b.describe table).noting fun answer => [.catalog table answer]
  fetchRows st selected := (b.fetchRows st selected).noting fun _ => []
  fetchCount st := (b.fetchCount st).noting fun _ => []
  fetchPage p := (b.fetchPage p).noting fun answer => [.page p answer]

/-- A state with the contacts so far. -/
def ServiceState.along (st : ServiceState σ) (l : List Contact) :
    ServiceState (σ × List Contact) :=
  ⟨st.cache, (st.world, l), st.notices⟩

namespace Service

def watched (s : Service σ) : Service (σ × List Contact) := ⟨s.backend.watched, s.timeout⟩

variable (s : Service σ) (st : ServiceState σ) (table : String)

/-! ## The columns of a table -/

/-- What is asked for the columns of a table. -/
def catalogContacts : List Contact :=
  match st.entry s.dialect table with
  | some _ => []
  | none => [.catalog table ((s.backend.describe table).runFor s.timeout st.world).1]

variable (l : List Contact)

theorem run_readCatalog_watched :
    (s.watched.readCatalog table).run (st.along l) =
      (((s.readCatalog table).run st).1,
        ((s.readCatalog table).run st).2.along
          (l ++ [.catalog table ((s.backend.describe table).runFor s.timeout st.world).1])) := by
  rw [run_readCatalog, run_readCatalog]
  -- Noting does not change how the catalog answers or what time it takes.
  rfl

theorem run_store_watched (schema : Schema) :
    (s.watched.store table schema).run (st.along l) =
      (((s.store table schema).run st).1, ((s.store table schema).run st).2.along l) := by
  rw [run_store, run_store]
  rfl

theorem run_describe_watched :
    (s.watched.describe table).run (st.along l) =
      (((s.describe table).run st).1,
        ((s.describe table).run st).2.along (l ++ s.catalogContacts st table)) := by
  have hentry : (st.along l).entry s.watched.dialect table = st.entry s.dialect table := rfl
  rw [run_describe, run_describe, hentry, catalogContacts]
  cases st.entry s.dialect table with
  | some schema => simp only [List.append_nil]
  | none =>
    simp only [run_introspect, run_readCatalog_watched]
    obtain ⟨result, st'⟩ := (s.readCatalog table).run st
    cases result with
    | error f => rfl
    | ok schema => simp only [run_store_watched]

/-! ## A request -/

/-- What is asked for the page of a request. -/
def pageContacts (r : Request) (schema : Schema) : List Contact :=
  match s.planOf r schema with
  | .error _ => []
  | .ok (p, _) => [.page p ((s.backend.fetchPage p).runFor s.timeout st.world).1]

/-- What is asked for a request. -/
def requestContacts (r : Request) : List Contact :=
  match r.check with
  | .error _ => []
  | .ok () =>
    s.catalogContacts st r.table ++
      match (s.describe r.table).run st with
      | (.error _, _) => []
      | (.ok schema, st') => s.pageContacts st' r schema

theorem run_compile_watched (r : Request) (schema : Schema) :
    (s.watched.compile r schema).run (st.along l) =
      (((s.compile r schema).run st).1, ((s.compile r schema).run st).2.along l) := by
  rw [run_compile, run_compile]
  rfl

theorem run_run_watched (r : Request) (p : Plan) (ds : Diagnostics) :
    (s.watched.run r p ds).run (st.along l) =
      (((s.run r p ds).run st).1,
        ((s.run r p ds).run st).2.along
          (l ++ [.page p ((s.backend.fetchPage p).runFor s.timeout st.world).1])) := by
  rw [run_run, run_run]
  rfl

theorem run_process_watched (r : Request) :
    (s.watched.process r).run (st.along l) =
      (((s.process r).run st).1,
        ((s.process r).run st).2.along (l ++ s.requestContacts st r)) := by
  rw [run_process, run_process, requestContacts]
  cases r.check with
  | error f => simp only [List.append_nil]
  | ok _ =>
    simp only [run_describe_watched]
    obtain ⟨result, st'⟩ := (s.describe r.table).run st
    cases result with
    | error f => simp only [List.append_nil]
    | ok schema =>
      simp only [run_compile_watched, pageContacts]
      rw [run_compile]
      cases s.planOf r schema with
      | error f => simp only [List.append_nil]
      | ok planned => simp only [run_run_watched, List.append_assoc]

end Service

end GridQuery
