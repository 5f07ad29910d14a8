import GridQuery.Backend.Memory
import GridQuery.Proofs.Engine.Episode
import Mathlib.Data.List.Forall2

/-!
# Runs with a cache

Operations one after another on a service, each of which may find the backend answering, failing
or out of time.

**The catalog** is read for a table exactly when no reading of it has succeeded since its last
invalidation. The invariant is `Remembers`: a schema is cached for exactly the tables with such
a reading.

**Without the cache** every operation has the same result, as long as the catalog always gives the
same answer for a table. The invariant is `Faithful`: what is cached is what the catalog answers.

Main result: `Service.cachedRuns`.
-/

namespace GridQuery

variable {σ : Type}

/-! ## The cache remembers -/

/-- A reading of the catalog for the table has succeeded since its last invalidation. -/
def ReadSince (table : String) (past : List Episode) : Prop :=
  ∃ before p after, past = before ++ p :: after ∧
    (∃ schema, .catalog table (some (.ok schema)) ∈ p.contacts) ∧
    ∀ q ∈ after, q.operation ≠ .invalidate table

theorem readSince_append_singleton {table : String} {past : List Episode} {p : Episode} :
    ReadSince table (past ++ [p]) ↔
      (∃ schema, .catalog table (some (.ok schema)) ∈ p.contacts) ∨
        ReadSince table past ∧ p.operation ≠ .invalidate table := by
  constructor
  · rintro ⟨before, q, after, hsplit, hread, hkept⟩
    rcases List.eq_nil_or_concat after with rfl | ⟨rest, last, rfl⟩
    · obtain ⟨-, rfl⟩ := List.append_singleton_inj.1 hsplit
      exact .inl hread
    · rw [List.concat_eq_append, ← List.cons_append, ← List.append_assoc,
        List.append_singleton_inj] at hsplit
      obtain ⟨rfl, rfl⟩ := hsplit
      refine .inr ⟨⟨before, q, rest, rfl, hread, fun e he => hkept e (by simp [he])⟩, ?_⟩
      exact hkept _ (by simp)
  · rintro (hread | ⟨⟨before, q, after, rfl, hread, hkept⟩, hlast⟩)
    · exact ⟨past, p, [], rfl, hread, by simp⟩
    · refine ⟨before, q, after ++ [p], by simp, hread, fun e he => ?_⟩
      rcases List.mem_append.1 he with he | he
      · exact hkept e he
      · rwa [List.mem_singleton.1 he]

/-- Schemas are cached for exactly the tables that were read since their last invalidation. -/
structure Service.Remembers (s : Service σ) (past : List Episode) (st : ServiceState σ) : Prop where
  caching : st.cache.isSome = true
  cached : ∀ table, (st.entry s.dialect table).isSome = true ↔ ReadSince table past

namespace Service.Remembers

variable {s : Service σ} {st : ServiceState σ} {past : List Episode}

theorem opening (w : σ) (ns : List Notice) : s.Remembers [] ⟨some .empty, w, ns⟩ where
  caching := rfl
  cached table := by
    constructor
    · intro h
      cases h
    · rintro ⟨before, p, after, hsplit, -⟩
      simp at hsplit

/-- **One operation.** -/
theorem episode (h : s.Remembers past st) (o : Operation) :
    s.Remembers (past ++ [(s.episode st o).1]) (s.episode st o).2 where
  caching := by
    rw [episode_eq]
    exact isSome_cache_perform h.caching o
  cached table := by
    rw [readSince_append_singleton, ← h.cached, episode_eq]
    exact isSome_entry_perform h.caching o table

/-- The catalog is asked for what is not remembered. -/
theorem reads (h : s.Remembers past st) (o : Operation) (table : String) :
    (∃ answer, .catalog table answer ∈ (s.episode st o).1.contacts) ↔
      o.table? = some table ∧ ¬ ReadSince table past := by
  rw [← h.cached, episode_eq, catalog_mem_contacts, Option.not_isSome_iff_eq_none]

/-- **A whole run.** -/
theorem episodes (h : s.Remembers past st) {os : List Operation} {before after : List Episode}
    {p : Episode} (hsplit : s.episodes st os = before ++ p :: after) (table : String) :
    (∃ answer, .catalog table answer ∈ p.contacts) ↔
      p.operation.table? = some table ∧ ¬ ReadSince table (past ++ before) := by
  induction os generalizing st past before with
  | nil => simp [Service.episodes] at hsplit
  | cons o os ih =>
    rw [Service.episodes] at hsplit
    cases before with
    | nil =>
      obtain ⟨rfl, -⟩ := List.cons.inj hsplit
      rw [List.append_nil, h.reads o table, episode_eq]
    | cons q before =>
      obtain ⟨rfl, hrest⟩ := List.cons.inj hsplit
      rw [List.append_cons]
      exact ih (h.episode o) hrest

end Service.Remembers

/-! ## With and without the cache -/

/-- All contacts with the catalog have these answers. -/
def CatalogAnswers (answer : String → Option (Except SchemaFailure Schema))
    (l : List Contact) : Prop :=
  ∀ table a, .catalog table a ∈ l → a = answer table

/-- A plan that was run in both has the same answer in both. -/
def PagesAgree (l l' : List Contact) : Prop :=
  ∀ p a a', .page p a ∈ l → .page p a' ∈ l' → a = a'

/-- What is cached for a table is what the catalog answers for it. -/
def Service.Faithful (s : Service σ) (answer : String → Option (Except SchemaFailure Schema))
    (st : ServiceState σ) : Prop :=
  ∀ table schema, st.entry s.dialect table = some schema → answer table = some (.ok schema)

namespace Service.Faithful

variable {s : Service σ} {answer : String → Option (Except SchemaFailure Schema)}
  {st : ServiceState σ} {table : String}

theorem of_cache_eq {st' : ServiceState σ} (h : s.Faithful answer st)
    (hcache : st'.cache = st.cache) : s.Faithful answer st' := by
  rw [Service.Faithful, ServiceState.entry_congr hcache]
  exact h

/-- With the cache or without, the columns of a table are those that the catalog answers. -/
theorem describe (h : s.Faithful answer st)
    (hcatalog : CatalogAnswers answer (s.catalogContacts st table)) :
    ((s.describe table).run st).1 = s.readingOf table (answer table) ∧
      s.Faithful answer ((s.describe table).run st).2 := by
  -- A hit answers from the cache, which is faithful; a miss asks the catalog and stores its answer.
  cases hentry : st.entry s.dialect table with
  | some schema =>
    rw [(describe_of_some hentry).1, h table schema hentry]
    exact ⟨rfl, h⟩
  | none =>
    obtain ⟨a, hcontacts, hresult, hcache⟩ := describe_of_none hentry
    obtain rfl : a = answer table := hcatalog table a (by simp [hcontacts])
    refine ⟨hresult, of_cache_eq ?_ hcache⟩
    cases ha : answer table with
    | none => exact h
    | some result =>
      cases result with
      | error f => exact h
      | ok schema =>
        intro t x hx
        rw [afterReading, entry_store] at hx
        by_cases ht : t = table
        · subst ht
          rw [if_pos ⟨rfl, rfl⟩, hentry, Option.getD_none] at hx
          obtain ⟨_, -, rfl⟩ := Option.map_eq_some_iff.1 hx
          exact ha
        · rw [if_neg fun hkey => ht hkey.2] at hx
          exact h t x hx

theorem invalidate (h : s.Faithful answer st) (table : String) :
    s.Faithful answer ((Service.invalidate table).run st).2 := by
  intro t schema ht
  rw [entry_invalidate] at ht
  split at ht
  · cases ht
  · exact h t schema ht

/-- **One operation.** It leaves the cache faithful. -/
theorem perform (h : s.Faithful answer st) {o : Operation}
    (hcatalog : CatalogAnswers answer (s.contacts st o)) :
    s.Faithful answer ((s.perform o).run st).2 := by
  cases o with
  | describe table => exact (h.describe hcatalog).2
  | process r =>
    rw [run_perform_process]
    cases hcheck : r.check with
    | error f =>
      rw [run_process_refused hcheck]
      exact h
    | ok _ =>
      refine of_cache_eq (h.describe fun t a ha => hcatalog t a ?_).2 (cache_of_process hcheck)
      exact catalog_mem_requestContacts.2 ⟨hcheck, ha⟩
  | invalidate table => exact h.invalidate table

/-- **The same operation on two states.** If both are faithful to one catalog, and the pages are
the same, the results are. -/
theorem result_eq {st' : ServiceState σ} (h : s.Faithful answer st) (h' : s.Faithful answer st')
    {o : Operation} (hcatalog : CatalogAnswers answer (s.contacts st o))
    (hcatalog' : CatalogAnswers answer (s.contacts st' o))
    (hpage : PagesAgree (s.contacts st o) (s.contacts st' o)) :
    ((s.perform o).run st).1 = ((s.perform o).run st').1 := by
  cases o with
  | describe table =>
    rw [run_perform_describe, run_perform_describe, (h.describe hcatalog).1,
      (h'.describe hcatalog').1]
  | process r =>
    rw [run_perform_process, run_perform_process, run_process, run_process]
    cases hcheck : r.check with
    | error f => rfl
    | ok _ =>
      have hresult := (h.describe fun t a ha =>
        hcatalog t a (catalog_mem_requestContacts.2 ⟨hcheck, ha⟩)).1
      have hresult' := (h'.describe fun t a ha =>
        hcatalog' t a (catalog_mem_requestContacts.2 ⟨hcheck, ha⟩)).1
      rw [← hresult'] at hresult
      cases hrun : (s.describe r.table).run st with
      | mk result st₁ =>
        cases hrun' : (s.describe r.table).run st' with
        | mk result' st₁' =>
          obtain rfl : result = result' := by rwa [hrun, hrun'] at hresult
          cases result with
          | error f => rfl
          | ok schema =>
            simp only [run_compile]
            cases hplan : s.planOf r schema with
            | error f => rfl
            | ok planned =>
              simp only [run_run]
              -- Both runs ask for the same page.
              congr 2
              refine hpage planned.1 _ _ ?_ ?_
              · simp [contacts, requestContacts, hcheck, hrun, pageContacts, hplan]
              · simp [contacts, requestContacts, hcheck, hrun', pageContacts, hplan]
  | invalidate table => rfl

/-- **Whole runs.** -/
theorem results_eq {st' : ServiceState σ} (h : s.Faithful answer st) (h' : s.Faithful answer st')
    {os : List Operation}
    (hcatalog : ∀ q ∈ s.episodes st os ++ s.episodes st' os, CatalogAnswers answer q.contacts)
    (hpages : List.Forall₂ PagesAgree ((s.episodes st os).map (·.contacts))
      ((s.episodes st' os).map (·.contacts))) :
    ((s.performAll os).run st).1 = ((s.performAll os).run st').1 := by
  induction os generalizing st st' with
  | nil => rfl
  | cons o os ih =>
    simp only [episodes, episode_eq, List.mem_append, List.mem_cons] at hcatalog
    simp only [episodes, episode_eq, List.map_cons] at hpages
    cases hpages with
    | cons hpage hpages =>
      have hasked : CatalogAnswers answer (s.contacts st o) := hcatalog _ (.inl (.inl rfl))
      have hasked' : CatalogAnswers answer (s.contacts st' o) := hcatalog _ (.inr (.inl rfl))
      have hresult := h.result_eq h' hasked hasked' hpage
      have hrest := ih (h.perform hasked) (h'.perform hasked') (fun q hq => ?_) hpages
      · rw [performAll_cons_fst, performAll_cons_fst, hresult, hrest]
      · rcases List.mem_append.1 hq with hq | hq
        · exact hcatalog q (.inl (.inr hq))
        · exact hcatalog q (.inr (.inr hq))

end Service.Faithful

/-- What a cache does to runs of a service. -/
structure Service.CachedRuns (s : Service σ) : Prop where
  /-- The catalog is read for a table exactly when an operation needs its columns and no reading
  of it has succeeded since its last invalidation. -/
  reads : ∀ w ns os before p after,
    s.episodes ⟨some .empty, w, ns⟩ os = before ++ p :: after →
    ∀ table, (∃ answer, .catalog table answer ∈ p.contacts) ↔
      p.operation.table? = some table ∧ ¬ ReadSince table before
  /-- A reading that fails leaves the cache as it was. -/
  unread : ∀ st table f, ((s.describe table).run st).1 = .error f →
    ((s.describe table).run st).2.cache = st.cache
  /-- Whatever becomes of the rest of a request, the cache is as looking up the columns of its
  table left it. -/
  kept : ∀ st r, r.check = .ok () →
    ((s.process r).run st).2.cache = ((s.describe r.table).run st).2.cache
  /-- A request that is refused asks for nothing and changes nothing. -/
  refused : ∀ st r f, r.check = .error f →
    s.episode st (.process r) =
      (⟨.process r, .processed (.error (.failure (.invalidRequest f))), []⟩, st)
  /-- If the catalog always gives the same answer for a table, and a plan that both runs run in
  one operation has the same answer in both, the run with a cache has the results of the run
  without. -/
  transparent : ∀ answer os w ns w' ns',
    (∀ q ∈ s.episodes ⟨some .empty, w, ns⟩ os ++ s.episodes ⟨none, w', ns'⟩ os,
      CatalogAnswers answer q.contacts) →
    List.Forall₂ PagesAgree ((s.episodes ⟨some .empty, w, ns⟩ os).map (·.contacts))
      ((s.episodes ⟨none, w', ns'⟩ os).map (·.contacts)) →
    ((s.performAll os).run ⟨some .empty, w, ns⟩).1 = ((s.performAll os).run ⟨none, w', ns'⟩).1

/-- **The cache saves readings of the catalog and changes no result.** -/
theorem Service.cachedRuns (s : Service σ) : s.CachedRuns where
  reads w ns os before p after hsplit table := (Remembers.opening w ns).episodes hsplit table
  unread st table f h := cache_of_describe_error h
  kept st r h := cache_of_process h
  refused st r f h := by
    rw [episode_eq, run_perform_process, run_process_refused h, contacts, requestContacts, h]
  transparent answer os w ns w' ns' hcatalog hpages := by
    have hopening : s.Faithful answer ⟨some .empty, w, ns⟩ := fun t x hx => by cases hx
    have hplain : s.Faithful answer ⟨none, w', ns'⟩ := fun t x hx => by cases hx
    exact hopening.results_eq hplain hcatalog hpages

/-- A database in memory that describes its table and refuses to give rows of it. -/
def Memory.withoutRows : Memory :=
  { Memory.ofDialect .postgres with
    tables := [("t", [⟨"a", "int4", .integer⟩])], failing := "rows" }

def Memory.service : Service Memory := ⟨Memory.backend .postgres, none⟩

/-- A table is described, served, invalidated and served again, and another one is unknown. -/
def Operation.sampleRun : List Operation :=
  let r : Request := ⟨"t", [⟨"a", "a", true, true, none⟩], .empty, [], .first, .null, .none⟩
  [.describe "t", .process r, .invalidate "t", .process r, .describe "u"]

theorem Service.cachedRuns_sampleRun :
    ((Memory.service.performAll Operation.sampleRun).run ⟨some .empty, .withoutRows, []⟩).1 =
      ((Memory.service.performAll Operation.sampleRun).run ⟨none, .withoutRows, []⟩).1 := by
  let t : Option (Except SchemaFailure Schema) := some (.ok [⟨"a", "int4", .integer⟩])
  let u : Option (Except SchemaFailure Schema) := some (.error (.tableNotFound .postgres "u"))
  obtain ⟨p, a, hcached, hplain⟩ : ∃ p a,
      (Memory.service.episodes ⟨some .empty, .withoutRows, []⟩ Operation.sampleRun).map
          (·.contacts) =
        [[.catalog "t" t], [.page p a], [], [.catalog "t" t, .page p a], [.catalog "u" u]] ∧
      (Memory.service.episodes ⟨none, .withoutRows, []⟩ Operation.sampleRun).map (·.contacts) =
        [[.catalog "t" t], [.catalog "t" t, .page p a], [], [.catalog "t" t, .page p a],
          [.catalog "u" u]] := ⟨_, _, rfl, rfl⟩
  refine Memory.service.cachedRuns.transparent (fun table => if table = "t" then t else u) _ _ _ _ _
    (List.forall_mem_map.1 ?_) ?_
  · rw [List.map_append, hcached, hplain]
    simp [CatalogAnswers]
  · rw [hcached, hplain]
    simp +contextual [PagesAgree]

end GridQuery
