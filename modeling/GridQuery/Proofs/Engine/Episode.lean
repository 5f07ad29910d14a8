import GridQuery.Proofs.Engine.Watch

/-!
# Operations of a service

What can be asked of a service, and the episodes of a run: each operation with its result and
with what the backend was asked for it, as a watched service shows it.

Main results: `Service.episode_eq`, being watched changes nothing;
`Service.catalog_mem_contacts`, when the catalog is asked; and `Service.isSome_entry_perform`, what
is cached afterwards.
-/

namespace GridQuery

variable {σ : Type}

/-! ## Operations -/

inductive Operation where
  | describe (table : String)
  | process (r : Request)
  | invalidate (table : String)

/-- The table whose columns are needed. A request that is refused needs none. -/
def Operation.table? : Operation → Option String
  | .describe table => some table
  | .process r =>
    match r.check with
    | .error _ => none
    | .ok () => some r.table
  | .invalidate _ => none

inductive Operation.Result where
  | described (result : Except EngineFailure Schema)
  | processed (result : Except ProcessFault Outcome)
  | invalidated

/-- An operation, what came of it, and what the backend was asked for it. -/
structure Episode where
  operation : Operation
  result : Operation.Result
  contacts : List Contact

namespace Service

def perform (s : Service σ) : Operation → Serving σ Operation.Result
  | .describe table => return .described (← s.describe table)
  | .process r => return .processed (← s.process r)
  | .invalidate table => do
    invalidate table
    return .invalidated

def performAll (s : Service σ) : List Operation → Serving σ (List Operation.Result)
  | [] => return []
  | o :: os => return (← s.perform o) :: (← s.performAll os)

/-- An operation while the service is watched. -/
def episode (s : Service σ) (st : ServiceState σ) (o : Operation) : Episode × ServiceState σ :=
  let (result, st') := (s.watched.perform o).run (st.along [])
  (⟨o, result, st'.world.2⟩, ⟨st'.cache, st'.world.1, st'.notices⟩)

def episodes (s : Service σ) : ServiceState σ → List Operation → List Episode
  | _, [] => []
  | st, o :: os => (s.episode st o).1 :: s.episodes (s.episode st o).2 os

/-- What is asked for an operation. -/
def contacts (s : Service σ) (st : ServiceState σ) : Operation → List Contact
  | .describe table => s.catalogContacts st table
  | .process r => s.requestContacts st r
  | .invalidate _ => []

section

variable (s : Service σ) (st : ServiceState σ)

theorem run_perform_describe (table : String) :
    (s.perform (.describe table)).run st =
      (.described ((s.describe table).run st).1, ((s.describe table).run st).2) := rfl

theorem run_perform_process (r : Request) :
    (s.perform (.process r)).run st =
      (.processed ((s.process r).run st).1, ((s.process r).run st).2) := rfl

theorem performAll_cons_fst (o : Operation) (os : List Operation) :
    ((s.performAll (o :: os)).run st).1 =
      ((s.perform o).run st).1 :: ((s.performAll os).run ((s.perform o).run st).2).1 := rfl

theorem run_perform_watched (l : List Contact) (o : Operation) :
    (s.watched.perform o).run (st.along l) =
      (((s.perform o).run st).1, ((s.perform o).run st).2.along (l ++ s.contacts st o)) := by
  cases o with
  | describe table =>
    rw [run_perform_describe, run_perform_describe, run_describe_watched]
    rfl
  | process r =>
    rw [run_perform_process, run_perform_process, run_process_watched]
    rfl
  | invalidate table =>
    rw [contacts, List.append_nil]
    rfl

/-- **Being watched changes nothing.** -/
theorem episode_eq (o : Operation) :
    s.episode st o =
      (⟨o, ((s.perform o).run st).1, s.contacts st o⟩, ((s.perform o).run st).2) := by
  rw [episode, run_perform_watched]
  rfl

theorem episodes_results (os : List Operation) :
    (s.episodes st os).map (·.result) = ((s.performAll os).run st).1 := by
  induction os generalizing st with
  | nil => rfl
  | cons o os ih =>
    rw [episodes, List.map_cons, ih, episode_eq, performAll_cons_fst]

end

end Service

/-! ## The cache after an operation -/

namespace Service

variable {s : Service σ} {st : ServiceState σ} {table : String}

/-- The state in which an answer of the catalog leaves the cache. -/
def afterReading (s : Service σ) (st : ServiceState σ) (table : String) :
    Option (Except SchemaFailure Schema) → ServiceState σ
  | some (.ok schema) => ((s.store table schema).run st).2
  | _ => st

theorem describe_of_some {schema : Schema} (h : st.entry s.dialect table = some schema) :
    (s.describe table).run st = (.ok schema, st) ∧ s.catalogContacts st table = [] := by
  rw [run_describe, catalogContacts, h]
  exact ⟨rfl, rfl⟩

/-- Where nothing is cached, the catalog is asked, and what it answers decides. -/
theorem describe_of_none (h : st.entry s.dialect table = none) :
    ∃ answer, s.catalogContacts st table = [.catalog table answer] ∧
      ((s.describe table).run st).1 = s.readingOf table answer ∧
      ((s.describe table).run st).2.cache = (s.afterReading st table answer).cache := by
  refine ⟨((s.backend.describe table).runFor s.timeout st.world).1, ?_, ?_⟩
  · rw [catalogContacts, h]
  rw [run_describe, h]
  simp only [run_introspect, run_readCatalog]
  obtain ⟨answer, w⟩ := (s.backend.describe table).runFor s.timeout st.world
  cases answer with
  | none => exact ⟨rfl, rfl⟩
  | some answer =>
    cases answer with
    | error f => exact ⟨rfl, rfl⟩
    | ok schema =>
      have hentry : ∀ ns, ServiceState.entry ⟨st.cache, w, ns⟩ s.dialect table = none := fun _ => h
      have hread : s.readingOf table (some (.ok schema)) = .ok schema := rfl
      simp only [hread, afterReading, run_store, hentry, Option.getD_none, and_self]

theorem cache_of_describe_error {f : EngineFailure}
    (h : ((s.describe table).run st).1 = .error f) :
    ((s.describe table).run st).2.cache = st.cache := by
  cases hentry : st.entry s.dialect table with
  | some schema => rw [(describe_of_some hentry).1]
  | none =>
    obtain ⟨answer, -, hresult, hcache⟩ := describe_of_none hentry
    rw [hcache]
    rw [h] at hresult
    match answer, hresult with
    | none, _ => rfl
    | some (.error _), _ => rfl

theorem run_process_refused {r : Request} {f : RequestFault} (h : r.check = .error f) :
    (s.process r).run st = (.error (.failure (.invalidRequest f)), st) := by
  rw [run_process, h]

/-- After its columns are looked up, a request leaves the cache alone. -/
theorem cache_of_process {r : Request} (h : r.check = .ok ()) :
    ((s.process r).run st).2.cache = ((s.describe r.table).run st).2.cache := by
  rw [run_process, h]
  simp only
  obtain ⟨result, st'⟩ := (s.describe r.table).run st
  cases result with
  | error f => rfl
  | ok schema =>
    simp only [run_compile]
    cases s.planOf r schema with
    | error f => rfl
    | ok planned => simp only [run_run]

/-! ## The catalog in an operation -/

theorem catalog_mem_requestContacts {r : Request}
    {answer : Option (Except SchemaFailure Schema)} :
    .catalog table answer ∈ s.requestContacts st r ↔
      r.check = .ok () ∧ .catalog table answer ∈ s.catalogContacts st r.table := by
  rw [requestContacts]
  cases r.check with
  | error f => simp
  | ok _ =>
    obtain ⟨result, st'⟩ := (s.describe r.table).run st
    cases result with
    | error f => simp
    | ok schema =>
      simp only [pageContacts, List.mem_append, true_and]
      cases s.planOf r schema <;> simp

theorem catalog_mem_catalogContacts {t : String} :
    (∃ answer, .catalog t answer ∈ s.catalogContacts st table) ↔
      t = table ∧ st.entry s.dialect table = none := by
  cases hentry : st.entry s.dialect table with
  | some schema => simp [(describe_of_some hentry).2]
  | none =>
    obtain ⟨answer, hcontacts, -⟩ := describe_of_none hentry
    simp [hcontacts]

/-- The catalog is asked for the table that is needed, if nothing is cached for it. -/
theorem catalog_mem_contacts {o : Operation} :
    (∃ answer, .catalog table answer ∈ s.contacts st o) ↔
      o.table? = some table ∧ st.entry s.dialect table = none := by
  cases o with
  | describe t =>
    rw [contacts, catalog_mem_catalogContacts, Operation.table?, Option.some.injEq, eq_comm]
    exact and_congr_right fun ht => by rw [ht]
  | process r =>
    simp only [contacts, catalog_mem_requestContacts, Operation.table?]
    cases r.check with
    | error f => simp
    | ok _ =>
      simp only [true_and, catalog_mem_catalogContacts, Option.some.injEq]
      rw [eq_comm]
      exact and_congr_right fun ht => by rw [ht]
  | invalidate t => simp [contacts, Operation.table?]

/-- After the columns of a table were asked for, what was cached is cached, and what was read. -/
theorem isSome_entry_describe (hc : st.cache.isSome = true) (t : String) :
    (((s.describe table).run st).2.entry s.dialect t).isSome = true ↔
      (∃ schema, .catalog t (some (.ok schema)) ∈ s.catalogContacts st table) ∨
        (st.entry s.dialect t).isSome = true := by
  cases hentry : st.entry s.dialect table with
  | some schema =>
    obtain ⟨hrun, hcontacts⟩ := describe_of_some hentry
    simp [hrun, hcontacts]
  | none =>
    obtain ⟨answer, hcontacts, -, hcache⟩ := describe_of_none hentry
    rw [ServiceState.entry_congr hcache, hcontacts]
    match answer with
    | none => simp [afterReading]
    | some (.error f) => simp [afterReading]
    | some (.ok schema) =>
      rw [afterReading, entry_store]
      by_cases ht : t = table
      · simp [ht, hc]
      · simp [ht]

theorem isSome_cache_describe (hc : st.cache.isSome = true) :
    ((s.describe table).run st).2.cache.isSome = true := by
  cases hentry : st.entry s.dialect table with
  | some schema =>
    rw [(describe_of_some hentry).1]
    exact hc
  | none =>
    obtain ⟨answer, -, -, hcache⟩ := describe_of_none hentry
    rw [hcache]
    match answer with
    | none => exact hc
    | some (.error f) => exact hc
    | some (.ok schema) =>
      rw [afterReading, run_store]
      simpa using hc

theorem isSome_cache_perform (hc : st.cache.isSome = true) (o : Operation) :
    ((s.perform o).run st).2.cache.isSome = true := by
  cases o with
  | describe t => exact isSome_cache_describe hc
  | process r =>
    rw [run_perform_process]
    cases hcheck : r.check with
    | error f =>
      rw [run_process_refused hcheck]
      exact hc
    | ok _ =>
      rw [cache_of_process hcheck]
      exact isSome_cache_describe hc
  | invalidate t =>
    change (st.cache.map (·.invalidate t)).isSome = true
    simpa using hc

/-- After an operation, what was cached is cached unless it was invalidated, and what was read. -/
theorem isSome_entry_perform (hc : st.cache.isSome = true) (o : Operation) (t : String) :
    (((s.perform o).run st).2.entry s.dialect t).isSome = true ↔
      (∃ schema, .catalog t (some (.ok schema)) ∈ s.contacts st o) ∨
        (st.entry s.dialect t).isSome = true ∧ o ≠ .invalidate t := by
  -- A case for each operation: only a reading stores and only an invalidation drops an entry.
  cases o with
  | describe table =>
    rw [run_perform_describe, isSome_entry_describe hc]
    simp [contacts]
  | process r =>
    rw [run_perform_process]
    cases hcheck : r.check with
    | error f =>
      rw [run_process_refused hcheck]
      simp [contacts, requestContacts, hcheck]
    | ok _ =>
      rw [ServiceState.entry_congr (cache_of_process hcheck), isSome_entry_describe hc]
      simp [contacts, catalog_mem_requestContacts, hcheck]
  | invalidate table =>
    change (((invalidate table).run st).2.entry s.dialect t).isSome = true ↔ _
    rw [entry_invalidate]
    by_cases ht : t = table
    · simp [ht, contacts]
    · simp [ht, contacts, Ne.symm ht]

end Service

end GridQuery
