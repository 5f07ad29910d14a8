import GridQuery.Engine.Service

/-!
# The stages of serving

What each stage of serving does to the engine's state. Storing a schema and forgetting a table
are all that changes the cache. Running out of time is one more answer of the backend.

Main results: `Service.run_describe` and `Service.run_process`, the stages put together.
-/

namespace GridQuery

variable {σ α : Type}

/-- The schema that is cached for a table. -/
def ServiceState.entry (st : ServiceState σ) (d : Dialect) (table : String) : Option Schema :=
  st.cache.bind (·.get? ⟨d, table⟩)

/-- What is cached depends on the cache only. -/
theorem ServiceState.entry_congr {st st' : ServiceState σ} (h : st.cache = st'.cache) :
    st.entry = st'.entry := by
  funext d table
  rw [entry, entry, h]

/-- One step of serving after another. -/
theorem Serving.run_bind {β : Type} (x : Serving σ α) (f : α → Serving σ β) (st : ServiceState σ) :
    (x >>= f).run st = (f (x.run st).1).run (x.run st).2 := rfl

theorem Serving.run_pure (a : α) (st : ServiceState σ) :
    (pure a : Serving σ α).run st = (a, st) := rfl

theorem Serving.run_notify (ns : List Notice) (st : ServiceState σ) :
    (notify ns).run st = ((), { st with notices := st.notices ++ ns }) := rfl

theorem Cache.fst_insert (c : Cache) (k : CacheKey) (schema : Schema) :
    (c.insert k schema).1 = (c.get? k).getD schema := by
  rw [insert]
  cases c.get? k <;> rfl

namespace Service

/-! ## Waiting -/

/-- What is made of an answer, or of none in time. -/
def inTime (s : Service σ) (table : String) : Option α → Except EngineFailure α
  | some v => .ok v
  | none => .error (.timeout s.dialect table (s.timeout.getD 0))

/-- What is reported of it. -/
def lateNotices (s : Service σ) (table : String) : Option α → List Notice
  | some _ => []
  | none => s.timeout.toList.map (.deadlineElapsed table)

variable (s : Service σ) (st : ServiceState σ) (table : String)

theorem run_withDeadline (a : Action σ α) :
    (s.withDeadline table a).run st =
      (s.inTime table (a.runFor s.timeout st.world).1,
        { st with
          world := (a.runFor s.timeout st.world).2
          notices := st.notices ++ s.lateNotices table (a.runFor s.timeout st.world).1 }) := by
  simp only [withDeadline, Serving.run_bind, StateT.run_get, StateT.run_modify]
  obtain ⟨answer, w⟩ := a.runFor s.timeout st.world
  cases answer with
  | some v =>
    simp only [inTime, lateNotices, Serving.run_pure, List.append_nil]
    rfl
  | none =>
    simp only [inTime, lateNotices]
    cases s.timeout with
    | none =>
      simp only [Serving.run_pure, Option.toList_none, List.map_nil, List.append_nil]
      rfl
    | some after => rfl

/-! ## Columns of a table -/

/-- What is made of the catalog's answer. -/
def readingOf (answer : Option (Except SchemaFailure Schema)) : Except EngineFailure Schema :=
  (s.inTime table answer).bind (·.mapError .schema)

/-- What is reported of it. -/
def readingNotices (answer : Option (Except SchemaFailure Schema)) : List Notice :=
  match answer with
  | some (.ok schema) => [.introspected schema.length]
  | _ => s.lateNotices table answer

@[simp]
theorem run_lookUp : (s.lookUp table).run st = (st.entry s.dialect table, st) := rfl

@[simp]
theorem run_invalidate :
    (invalidate table).run st = ((), { st with cache := st.cache.map (·.invalidate table) }) := rfl

theorem run_readCatalog :
    (s.readCatalog table).run st =
      (s.readingOf table ((s.backend.describe table).runFor s.timeout st.world).1,
        { st with
          world := ((s.backend.describe table).runFor s.timeout st.world).2
          notices := st.notices ++
            s.readingNotices table ((s.backend.describe table).runFor s.timeout st.world).1 }) := by
  simp only [readCatalog, Serving.run_bind, run_withDeadline]
  obtain ⟨answer, w⟩ := (s.backend.describe table).runFor s.timeout st.world
  cases answer with
  | none => rfl
  | some answer =>
    cases answer with
    | error f => rfl
    | ok schema =>
      simp only [inTime, lateNotices, List.append_nil]
      rfl

variable {s st table} in
theorem cache_of_readCatalog {result : Except EngineFailure Schema} {st' : ServiceState σ}
    (h : (s.readCatalog table).run st = (result, st')) : st'.cache = st.cache := by
  rw [run_readCatalog] at h
  obtain rfl := congrArg Prod.snd h
  rfl

/-- What is stored first stays, and is what comes back. -/
theorem run_store (schema : Schema) :
    (s.store table schema).run st =
      ((st.entry s.dialect table).getD schema,
        { st with cache := st.cache.map fun c => (c.insert ⟨s.dialect, table⟩ schema).2 }) := by
  obtain ⟨cache, w, ns⟩ := st
  cases cache with
  | none => rfl
  | some c =>
    rw [ServiceState.entry, Option.bind_some, ← Cache.fst_insert]
    rfl

theorem entry_store (schema : Schema) (d : Dialect) (other : String) :
    ((s.store table schema).run st).2.entry d other =
      if d = s.dialect ∧ other = table then
        st.cache.map fun _ => (st.entry s.dialect table).getD schema
      else st.entry d other := by
  rw [run_store]
  simp only [ServiceState.entry]
  cases st.cache with
  | none => simp
  | some c =>
    simp only [Option.map_some, Option.bind_some]
    split
    · rename_i hkey
      obtain ⟨rfl, rfl⟩ := hkey
      rw [Cache.get?_insert_self, Cache.fst_insert]
    · rename_i hkey
      have hne : (⟨d, other⟩ : CacheKey) ≠ ⟨s.dialect, table⟩ := by simpa using hkey
      exact Cache.get?_insert_of_ne c hne schema

variable {s st table} in
/-- The first schema stored for a table is the one that all get. -/
theorem store_caching {schema answer : Schema} {st' : ServiceState σ}
    (h : (s.store table schema).run st = (answer, st')) (hcache : st.cache.isSome = true) :
    answer = (st.entry s.dialect table).getD schema ∧ st'.cache.isSome = true ∧
      ∀ d other, st'.entry d other =
        if d = s.dialect ∧ other = table then some answer else st.entry d other := by
  have hentry := s.entry_store st table schema
  obtain ⟨c, hc⟩ := Option.isSome_iff_exists.1 hcache
  rw [h] at hentry
  rw [run_store] at h
  obtain ⟨rfl, rfl⟩ := Prod.mk.inj h
  exact ⟨rfl, by simpa using hcache, fun d other => by rw [hentry, hc, Option.map_some]⟩

theorem entry_invalidate (d : Dialect) (other : String) :
    ((invalidate table).run st).2.entry d other =
      if other = table then none else st.entry d other := by
  simp only [run_invalidate, ServiceState.entry]
  cases st.cache with
  | none => simp
  | some c => simp [Cache.get?_invalidate]

theorem run_introspect :
    (s.introspect table).run st =
      match (s.readCatalog table).run st with
      | (.error f, st) => (.error f, st)
      | (.ok schema, st) =>
        (.ok ((s.store table schema).run st).1, ((s.store table schema).run st).2) := by
  simp only [introspect, Serving.run_bind]
  obtain ⟨result, st'⟩ := (s.readCatalog table).run st
  cases result <;> rfl

/-- **The columns of a table are those cached, or else those read and stored.** -/
theorem run_describe :
    (s.describe table).run st =
      match st.entry s.dialect table with
      | some schema => (.ok schema, st)
      | none => (s.introspect table).run st := by
  simp only [describe, Serving.run_bind, run_lookUp]
  cases st.entry s.dialect table <;> rfl

/-- Looking up the columns of a table reports what the catalog said, or that it was late. -/
theorem notices_describe :
    ∃ ns, ((s.describe table).run st).2.notices = st.notices ++ ns ∧
      ∀ n ∈ ns, (∃ k, n = .introspected k) ∨ ∃ after, n = .deadlineElapsed table after := by
  rw [run_describe]
  cases st.entry s.dialect table with
  | some schema => exact ⟨[], (List.append_nil _).symm, nofun⟩
  | none =>
    -- On a miss the notices are those of the reading; storing its result adds none.
    let answer := ((s.backend.describe table).runFor s.timeout st.world).1
    refine ⟨s.readingNotices table answer, ?_, ?_⟩
    · have hread := congrArg (·.2.notices) (s.run_readCatalog st table)
      rw [run_introspect]
      generalize (s.readCatalog table).run st = after at hread
      obtain ⟨result, st'⟩ := after
      cases result with
      | error f => exact hread
      | ok schema => simpa only [run_store] using hread
    · intro n hn
      cases hanswer : answer with
      | none =>
        rw [hanswer] at hn
        obtain ⟨after, -, rfl⟩ := List.mem_map.1 hn
        exact .inr ⟨after, rfl⟩
      | some read =>
        rw [hanswer] at hn
        cases read with
        | error f => cases hn
        | ok schema => exact .inl ⟨schema.length, List.mem_singleton.1 hn⟩

/-! ## Requests -/

/-- What is made of a request and a schema. -/
def planOf (r : Request) (schema : Schema) : Except EngineFailure (Plan × Diagnostics) :=
  match r.check with
  | .error f => .error (.invalidRequest f)
  | .ok () =>
    ((Plan.ofRequest s.dialect r schema).mapError .invalidRequest).map fun p =>
      (p, Diagnostics.collect (Plan.findings r schema))

variable {s} in
theorem planOf_ok {r : Request} {schema : Schema} {p : Plan} {ds : Diagnostics}
    (h : s.planOf r schema = .ok (p, ds)) :
    r.check = .ok () ∧ Plan.ofRequest s.dialect r schema = .ok p ∧
      ds = Diagnostics.collect (Plan.findings r schema) := by
  unfold planOf at h
  cases hcheck : r.check with
  | error f =>
    rw [hcheck] at h
    cases h
  | ok _ =>
    rw [hcheck] at h
    dsimp only at h
    cases hplan : Plan.ofRequest s.dialect r schema with
    | error f =>
      rw [hplan] at h
      cases h
    | ok q =>
      rw [hplan] at h
      cases h
      exact ⟨rfl, rfl, rfl⟩

/-- What is reported of it. -/
def planNotices (r : Request) (schema : Schema) : List Notice :=
  match r.check with
  | .error _ => []
  | .ok () => Notice.ofDiagnostics (Diagnostics.collect (Plan.findings r schema))

theorem run_compile (r : Request) (schema : Schema) :
    (s.compile r schema).run st =
      (s.planOf r schema, { st with notices := st.notices ++ planNotices r schema }) := by
  unfold compile planOf planNotices
  cases r.check with
  | error f => simp only [Serving.run_pure, List.append_nil]
  | ok _ =>
    simp only [Serving.run_bind, Serving.run_notify]
    cases Plan.ofRequest s.dialect r schema <;> rfl

/-- What is made of the backend's answer to a plan. -/
def outcomeOf (r : Request) (ds : Diagnostics)
    (answer : Option (Except ExecutionFailure PageRows)) : Except ProcessFault Outcome :=
  match s.inTime r.table answer with
  | .error f => .error (.failure f)
  | .ok (.error f) => .error (.failure (.execution f))
  | .ok (.ok page) =>
    match Column.records r.columns page.rows with
    | none => .error .unwritable
    | some data => .ok ⟨Response.ofPage r.draw page data, ds⟩

variable {s} in
theorem diagnostics_of_outcomeOf {r : Request} {ds : Diagnostics}
    {answer : Option (Except ExecutionFailure PageRows)} {outcome : Outcome}
    (h : s.outcomeOf r ds answer = .ok outcome) : outcome.diagnostics = ds := by
  unfold outcomeOf at h
  split at h
  · cases h
  · cases h
  · split at h <;> cases h
    rfl

/-- What is reported of it. -/
def runNotices (r : Request) (p : Plan) (ds : Diagnostics)
    (answer : Option (Except ExecutionFailure PageRows)) : List Notice :=
  [.planned "data statement" p.data.sql, .planned "filtered count statement" p.filteredCount.sql,
    .planned "total count statement" p.totalCount.sql] ++ s.lateNotices r.table answer ++
  match answer with
  | some (.ok page) => (Column.records r.columns page.rows).toList.map fun data =>
      .servedPage data.length page.filtered page.total ds.size
  | _ => []

theorem run_run (r : Request) (p : Plan) (ds : Diagnostics) :
    (s.run r p ds).run st =
      (s.outcomeOf r ds ((s.backend.fetchPage p).runFor s.timeout st.world).1,
        { st with
          world := ((s.backend.fetchPage p).runFor s.timeout st.world).2
          notices := st.notices ++
            s.runNotices r p ds ((s.backend.fetchPage p).runFor s.timeout st.world).1 }) := by
  simp only [run, Serving.run_bind, Serving.run_notify, run_withDeadline, runNotices, outcomeOf]
  obtain ⟨answer, w⟩ := (s.backend.fetchPage p).runFor s.timeout st.world
  cases answer with
  | none => simp only [inTime, Serving.run_pure, List.append_assoc, List.append_nil]
  | some answer =>
    cases answer with
    | error f => simp only [inTime, Serving.run_pure, List.append_assoc, List.append_nil]
    | ok page =>
      simp only [inTime, lateNotices]
      cases Column.records r.columns page.rows with
      | none => simp only [Serving.run_pure, Option.toList_none, List.map_nil, List.append_nil]
      | some data =>
        simp only [Serving.run_bind, Serving.run_pure, Serving.run_notify, Option.toList_some,
          List.map_cons, List.map_nil, List.append_assoc, List.append_nil]

/-- **A request is checked, its columns are looked up, and the plan made from them is run.** -/
theorem run_process (r : Request) :
    (s.process r).run st =
      match r.check with
      | .error f => (.error (.failure (.invalidRequest f)), st)
      | .ok () =>
        match (s.describe r.table).run st with
        | (.error f, st) => (.error (.failure f), st)
        | (.ok schema, st) =>
          match (s.compile r schema).run st with
          | (.error f, st) => (.error (.failure f), st)
          | (.ok (p, ds), st) => (s.run r p ds).run st := by
  unfold process
  cases r.check with
  | error f => rfl
  | ok _ =>
    simp only [Serving.run_bind]
    obtain ⟨result, st'⟩ := (s.describe r.table).run st
    cases result with
    | error f => rfl
    | ok schema =>
      simp only [Serving.run_bind]
      obtain ⟨result, st''⟩ := (s.compile r schema).run st'
      cases result <;> rfl

variable {s st} in
/-- **A request that is answered was checked, and planned on the columns of its table.** -/
theorem process_ok {r : Request} {outcome : Outcome} {st' : ServiceState σ}
    (h : (s.process r).run st = (.ok outcome, st')) :
    ∃ schema st₁ p answer, r.check = .ok () ∧ (s.describe r.table).run st = (.ok schema, st₁) ∧
      Plan.ofRequest s.dialect r schema = .ok p ∧
      outcome.diagnostics = Diagnostics.collect (Plan.findings r schema) ∧
      st'.notices = st₁.notices ++ Notice.ofDiagnostics outcome.diagnostics ++
        s.runNotices r p outcome.diagnostics answer := by
  rw [run_process] at h
  cases hcheck : r.check with
  | error f => rw [hcheck] at h; cases h
  | ok _ =>
    cases hdescribe : (s.describe r.table).run st with
    | mk result st₁ =>
      simp only [hcheck, hdescribe] at h
      cases result with
      | error f => cases h
      | ok schema =>
        simp only [run_compile] at h
        cases hplanned : s.planOf r schema with
        | error f =>
          rw [hplanned] at h
          cases h
        | ok planned =>
          obtain ⟨p, ds⟩ := planned
          obtain ⟨-, hplan, hds⟩ := planOf_ok hplanned
          simp only [hplanned, planNotices, hcheck, run_run] at h
          obtain ⟨houtcome, rfl⟩ := Prod.mk.inj h
          obtain rfl := diagnostics_of_outcomeOf houtcome
          exact ⟨schema, st₁, p, _, rfl, rfl, hplan, hds, by rw [← hds]⟩

end Service

end GridQuery
