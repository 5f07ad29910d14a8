import GridQuery.Backend.Memory
import GridQuery.Proofs.Engine.Stage

/-!
# Calls side by side

Many calls for the columns of tables on one service. A call looks into the cache, reads the
catalog if there is nothing, and stores what it read. Between two steps of a call anything may
happen: steps of other calls, invalidations, and changes in the world of the catalog.

What is cached for a table depends on the events since its last invalidation only: it is the
first schema stored since (`Run.entry`), and whoever gets an answer gets this one
(`Step.entry_of_answer`).
-/

namespace GridQuery.Interleaving

variable {σ : Type}

/-! ## Steps -/

/-- A call, by what it does next. -/
inductive Call where
  | looking (table : String)
  | reading (table : String)
  | storing (table : String) (schema : Schema)
  | done (result : Except EngineFailure Schema)

/-- What happens in a step. Calls have numbers in the order in which they start. -/
inductive Event where
  | started (call : Nat) (table : String)
  /-- The cache has a schema, and the call ends with it. -/
  | found (call : Nat) (table : String) (schema : Schema)
  | missed (call : Nat) (table : String)
  | read (call : Nat) (table : String) (schema : Schema)
  /-- The catalog gives no schema, and the call ends with the failure. -/
  | failed (call : Nat) (table : String) (f : EngineFailure)
  /-- A schema that was read is stored, and the call ends with the one that is cached then. -/
  | stored (call : Nat) (table : String) (schema answer : Schema)
  | invalidated (table : String)
  /-- The world of the catalog becomes another. -/
  | changed

/-- The state of the engine, and how far each call has come. -/
structure Scene (σ : Type) where
  state : ServiceState σ
  calls : List Call

/-- A service with an empty cache, before any call. -/
def opening (w : σ) : Scene σ := ⟨⟨some .empty, w, []⟩, []⟩

/-- A step of one call, or of something beside the calls. -/
inductive Step (s : Service σ) : Scene σ → Event → Scene σ → Prop
  | start {m} (table : String) :
      Step s m (.started m.calls.length table) { m with calls := m.calls ++ [.looking table] }
  | find {m st i table schema} :
      m.calls[i]? = some (.looking table) →
      (s.lookUp table).run m.state = (some schema, st) →
      Step s m (.found i table schema) ⟨st, m.calls.set i (.done (.ok schema))⟩
  | miss {m st i table} :
      m.calls[i]? = some (.looking table) →
      (s.lookUp table).run m.state = (none, st) →
      Step s m (.missed i table) ⟨st, m.calls.set i (.reading table)⟩
  | read {m st i table schema} :
      m.calls[i]? = some (.reading table) →
      (s.readCatalog table).run m.state = (.ok schema, st) →
      Step s m (.read i table schema) ⟨st, m.calls.set i (.storing table schema)⟩
  | fail {m st i table f} :
      m.calls[i]? = some (.reading table) →
      (s.readCatalog table).run m.state = (.error f, st) →
      Step s m (.failed i table f) ⟨st, m.calls.set i (.done (.error f))⟩
  | store {m st i table schema answer} :
      m.calls[i]? = some (.storing table schema) →
      (s.store table schema).run m.state = (answer, st) →
      Step s m (.stored i table schema answer) ⟨st, m.calls.set i (.done (.ok answer))⟩
  | invalidate {m st} (table : String) :
      (Service.invalidate table).run m.state = ((), st) →
      Step s m (.invalidated table) ⟨st, m.calls⟩
  | change {m} (w : σ) : Step s m .changed { m with state := { m.state with world := w } }

/-- Steps one after another, with their events. -/
inductive Run (s : Service σ) : Scene σ → List Event → Scene σ → Prop
  | nil (m) : Run s m [] m
  | cons {m m₁ m' e es} : Step s m e m₁ → Run s m₁ es m' → Run s m (e :: es) m'

section

variable {s : Service σ} {m m' : Scene σ} {e : Event} {es fs : List Event} {table : String}

theorem Run.single (h : Step s m e m') : Run s m [e] m' := .cons h (.nil m')

theorem Run.split (h : Run s m (es ++ fs) m') : ∃ m₁, Run s m es m₁ ∧ Run s m₁ fs m' := by
  induction es generalizing m with
  | nil => exact ⟨m, .nil m, h⟩
  | cons e es ih =>
    cases h with
    | cons hstep hrest =>
      obtain ⟨m₁, h₁, h₂⟩ := ih hrest
      exact ⟨m₁, .cons hstep h₁, h₂⟩

/-- Left alone, a call does what the service does for its table. -/
theorem Run.describe (s : Service σ) (m : Scene σ) (table : String) :
    ∃ es, Run s m es ⟨((s.describe table).run m.state).2,
      m.calls ++ [.done ((s.describe table).run m.state).1]⟩ := by
  have hlast : ∀ c : Call, (m.calls ++ [c])[m.calls.length]? = some c := by simp
  have hset : ∀ c c' : Call, (m.calls ++ [c]).set m.calls.length c' = m.calls ++ [c'] := by simp
  -- The steps of the call one by one, as the service goes: look up, read, store.
  have hstart := Step.start (s := s) (m := m) table
  rw [Service.run_describe]
  cases hentry : m.state.entry s.dialect table with
  | some schema =>
    have hfind := Step.find (m := ⟨m.state, _⟩) (hlast (.looking table))
      (by rw [Service.run_lookUp, hentry])
    rw [hset] at hfind
    exact ⟨_, .cons hstart (Run.single hfind)⟩
  | none =>
    have hmiss := Step.miss (m := ⟨m.state, _⟩) (hlast (.looking table))
      (by rw [Service.run_lookUp, hentry])
    rw [hset] at hmiss
    rw [Service.run_introspect]
    cases hread : (s.readCatalog table).run m.state with
    | mk result st =>
      cases result with
      | error f =>
        have hfail := Step.fail (m := ⟨m.state, _⟩) (hlast (.reading table)) hread
        rw [hset] at hfail
        exact ⟨_, .cons hstart (.cons hmiss (.single hfail))⟩
      | ok schema =>
        have hread' := Step.read (m := ⟨m.state, _⟩) (hlast (.reading table)) hread
        rw [hset] at hread'
        have hstore := Step.store (s := s) (m := ⟨st, _⟩) (hlast (.storing table schema)) rfl
        rw [hset] at hstore
        exact ⟨_, .cons hstart (.cons hmiss (.cons hread' (.single hstore)))⟩

/-! ## What is cached -/

/-- The answer of a call, with its number and its table. -/
def Event.answer? : Event → Option (Nat × String × Schema)
  | .found i table schema => some (i, table, schema)
  | .stored i table _ answer => some (i, table, answer)
  | _ => none

/-- The schema that is stored for a table. -/
def Event.stores? (table : String) : Event → Option Schema
  | .stored _ t schema _ => if t = table then some schema else none
  | _ => none

/-- What an event makes of what is cached for a table. -/
def Event.effect (table : String) (cached : Option Schema) : Event → Option Schema
  | .stored _ t schema _ => if t = table then some (cached.getD schema) else cached
  | .invalidated t => if t = table then none else cached
  | _ => cached

/-- The first schema that is stored for a table. -/
def firstStored (table : String) (es : List Event) : Option Schema :=
  es.findSome? (Event.stores? table)

theorem Event.effect_eq_self (hstored : e.stores? table = none) (hkept : e ≠ .invalidated table)
    (cached : Option Schema) : e.effect table cached = cached := by
  cases e with
  | stored i t schema answer =>
    have ht : t ≠ table := by simpa [Event.stores?] using hstored
    simp [Event.effect, ht]
  | invalidated t =>
    have ht : t ≠ table := fun heq => hkept (heq ▸ rfl)
    simp [Event.effect, ht]
  | _ => rfl

/-- **What a step does to the cache.** Storing and invalidating are all that changes it. -/
theorem Step.cache_cases (h : Step s m e m') :
    (m'.state.cache = m.state.cache ∧ ∀ t, e.stores? t = none ∧ e ≠ .invalidated t) ∨
      (∃ i t schema answer, e = .stored i t schema answer ∧
        m.calls[i]? = some (.storing t schema) ∧
        (s.store t schema).run m.state = (answer, m'.state)) ∨
      ∃ t, e = .invalidated t ∧ m'.state = ((Service.invalidate t).run m.state).2 := by
  cases h with
  | start | change => exact .inl ⟨rfl, fun t => ⟨rfl, nofun⟩⟩
  | find _ hrun | miss _ hrun =>
    obtain rfl := congrArg Prod.snd hrun
    exact .inl ⟨rfl, fun t => ⟨rfl, nofun⟩⟩
  | read _ hrun | fail _ hrun =>
    exact .inl ⟨Service.cache_of_readCatalog hrun, fun t => ⟨rfl, nofun⟩⟩
  | store hi hrun => exact .inr (.inl ⟨_, _, _, _, rfl, hi, hrun⟩)
  | invalidate t hrun => exact .inr (.inr ⟨t, rfl, (congrArg Prod.snd hrun).symm⟩)

theorem Step.caching (h : Step s m e m') (hc : m.state.cache.isSome = true) :
    m'.state.cache.isSome = true := by
  obtain ⟨hcache, -⟩ | ⟨_, _, _, _, -, -, hrun⟩ | ⟨t, -, hinvalid⟩ := h.cache_cases
  · rwa [hcache]
  · exact (Service.store_caching hrun hc).2.1
  · rw [hinvalid]
    simpa using hc

/-- What is cached for a table changes as the event says. -/
theorem Step.entry (h : Step s m e m') (hc : m.state.cache.isSome = true) (table : String) :
    m'.state.entry s.dialect table = e.effect table (m.state.entry s.dialect table) := by
  obtain ⟨hcache, hnone⟩ | ⟨_, t, _, _, rfl, -, hrun⟩ | ⟨t, rfl, hinvalid⟩ := h.cache_cases
  · rw [Event.effect_eq_self (hnone table).1 (hnone table).2, ServiceState.entry_congr hcache]
  · obtain ⟨rfl, -, hentry⟩ := Service.store_caching hrun hc
    rw [hentry, Event.effect]
    by_cases ht : t = table
    · simp [ht]
    · simp [ht, Ne.symm ht]
  · rw [hinvalid, Service.entry_invalidate, Event.effect]
    by_cases ht : t = table
    · simp [ht]
    · simp [ht, Ne.symm ht]

/-- Whoever gets an answer gets what is cached. -/
theorem Step.entry_of_answer (h : Step s m e m') (hc : m.state.cache.isSome = true) {i : Nat}
    {table : String} {schema : Schema} (ha : e.answer? = some (i, table, schema)) :
    m'.state.entry s.dialect table = some schema := by
  cases h with
  | find _ hrun =>
    obtain ⟨rfl, rfl, rfl⟩ : _ = i ∧ _ = table ∧ _ = schema := by
      simpa [Event.answer?] using ha
    obtain ⟨hfound, rfl⟩ := Prod.mk.inj hrun
    exact hfound
  | store _ hrun =>
    obtain ⟨rfl, rfl, rfl⟩ : _ = i ∧ _ = table ∧ _ = schema := by
      simpa [Event.answer?] using ha
    rw [(Service.store_caching hrun hc).2.2, if_pos ⟨rfl, rfl⟩]
  | _ => cases ha

/-- Nothing but storing a schema for a table and invalidating it changes what is cached for it,
whatever the dialect. -/
theorem Step.entry_frame (h : Step s m e m') (hc : m.state.cache.isSome = true)
    (hstored : e.stores? table = none) (hkept : e ≠ .invalidated table) (d : Dialect) :
    m'.state.entry d table = m.state.entry d table := by
  obtain ⟨hcache, -⟩ | ⟨_, t, _, _, rfl, -, hrun⟩ | ⟨t, rfl, hinvalid⟩ := h.cache_cases
  · rw [ServiceState.entry_congr hcache]
  · have ht : t ≠ table := by simpa [Event.stores?] using hstored
    rw [(Service.store_caching hrun hc).2.2, if_neg fun hkey => ht hkey.2.symm]
  · have ht : t ≠ table := fun heq => hkept (heq ▸ rfl)
    rw [hinvalid, Service.entry_invalidate, if_neg ht.symm]

/-! ## What is cached after a run -/

theorem Run.caching (h : Run s m es m') (hc : m.state.cache.isSome = true) :
    m'.state.cache.isSome = true := by
  induction h with
  | nil => exact hc
  | cons hstep _ ih => exact ih (hstep.caching hc)

theorem Run.entry (h : Run s m es m') (hc : m.state.cache.isSome = true) (table : String) :
    m'.state.entry s.dialect table =
      es.foldl (fun cached e => e.effect table cached) (m.state.entry s.dialect table) := by
  induction h with
  | nil => rfl
  | cons hstep _ ih => rw [ih (hstep.caching hc), hstep.entry hc, List.foldl_cons]

/-- Without an invalidation what is cached stays, and if there is nothing the first schema stored
takes its place. -/
theorem foldl_effect {table : String} (h : .invalidated table ∉ es) (cached : Option Schema) :
    es.foldl (fun cached e => e.effect table cached) cached =
      cached.or (firstStored table es) := by
  induction es generalizing cached with
  | nil => simp [firstStored]
  | cons e es ih =>
    obtain ⟨he, hes⟩ : .invalidated table ≠ e ∧ .invalidated table ∉ es := by simpa using h
    rw [List.foldl_cons, ih hes]
    cases e with
    | stored i t schema answer =>
      by_cases ht : t = table
      · cases cached <;> simp [Event.effect, firstStored, Event.stores?, ht]
      · simp [Event.effect, firstStored, Event.stores?, ht]
    | invalidated t =>
      have ht : t ≠ table := fun heq => he (heq ▸ rfl)
      simp [Event.effect, firstStored, Event.stores?, ht, List.findSome?_cons]
    | _ => simp [Event.effect, firstStored, Event.stores?, List.findSome?_cons]

end

/-! ## A table that gets a column -/

def memory : Service Memory := ⟨Memory.backend .postgres, none⟩

/-- The database in memory with one table. -/
def holding (schema : Schema) : Memory :=
  { Memory.ofDialect .postgres with tables := [("t", schema)] }

def narrow : Schema := [⟨"a", "int4", .integer⟩]

def wide : Schema := [⟨"a", "int4", .integer⟩, ⟨"b", "text", .text⟩]

end GridQuery.Interleaving
