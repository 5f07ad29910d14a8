import GridQuery.Backend.Memory
import GridQuery.Proofs.Engine.Stage
import GridQuery.Proofs.Plan.Secrecy

/-!
# The SQL of the log

Serving a request reports the texts of its plan and no other SQL: a request that is refused, or
whose table is not known, reports none. So the SQL of the log keeps values to itself as the texts
of plans do.

Main results: `Service.loggedSql_process` and `Service.sql_without_values`.
-/

namespace GridQuery

/-- The SQL that an event carries. -/
def LogEvent.sql? (e : LogEvent) : Option String := e.fields.lookup "sql"

/-- The SQL that notices carry, in their order. -/
def Notice.loggedSql (ns : List Notice) : List String := ns.filterMap (·.event.sql?)

theorem Notice.loggedSql_append (ns ns' : List Notice) :
    loggedSql (ns ++ ns') = loggedSql ns ++ loggedSql ns' :=
  List.filterMap_append

theorem Notice.loggedSql_map {α : Type} {f : α → Notice} (h : ∀ x, (f x).event.sql? = none)
    (xs : List α) : loggedSql (xs.map f) = [] := by
  rw [loggedSql, List.filterMap_map, List.filterMap_eq_nil_iff]
  exact fun x _ => h x

namespace Service

variable {σ α : Type} (s : Service σ) (st : ServiceState σ)

theorem loggedSql_late (table : String) (answer : Option α) :
    Notice.loggedSql (s.lateNotices table answer) = [] := by
  cases answer with
  | some v => rfl
  | none => exact Notice.loggedSql_map (fun _ => rfl) s.timeout.toList

theorem loggedSql_plan (r : Request) (schema : Schema) :
    Notice.loggedSql (planNotices r schema) = [] := by
  unfold planNotices
  cases r.check with
  | error f => rfl
  | ok _ => exact Notice.loggedSql_map (fun _ => rfl) _

/-- Running a plan reports its texts. -/
theorem loggedSql_run (r : Request) (p : Plan) (ds : Diagnostics)
    (answer : Option (Except ExecutionFailure PageRows)) :
    Notice.loggedSql (s.runNotices r p ds answer) = p.sqls := by
  unfold runNotices
  rw [Notice.loggedSql_append, Notice.loggedSql_append, loggedSql_late, List.append_nil]
  -- Behind the texts stands at most the notice of a served page.
  cases answer with
  | none => rfl
  | some answer =>
    cases answer with
    | error f => rfl
    | ok page => exact congrArg (p.sqls ++ ·) (Notice.loggedSql_map (fun _ => rfl) _)

/-- Looking up the columns of a table reports no SQL. -/
theorem loggedSql_describe (table : String) :
    Notice.loggedSql ((s.describe table).run st).2.notices = Notice.loggedSql st.notices := by
  obtain ⟨ns, hns, hkinds⟩ := s.notices_describe st table
  have hnone : Notice.loggedSql ns = [] := by
    refine List.filterMap_eq_nil_iff.2 fun n hn => ?_
    rcases hkinds n hn with ⟨k, rfl⟩ | ⟨after, rfl⟩ <;> rfl
  rw [hns, Notice.loggedSql_append, hnone, List.append_nil]

/-- The SQL of a request, once its table was looked up. -/
def sqlOf (r : Request) (looked : Except EngineFailure Schema) : List String :=
  match looked.bind (s.planOf r) with
  | .ok (p, _) => p.sqls
  | .error _ => []

/-- Requests with the same table and columns whose plans have the same texts report the same. -/
theorem sqlOf_congr {r r' : Request} {schema : Schema} (htable : r'.table = r.table)
    (hcolumns : r'.columns = r.columns)
    (h : Agree (fun p p' => p'.sqls = p.sqls) (Plan.ofRequest s.dialect r schema)
      (Plan.ofRequest s.dialect r' schema)) :
    s.sqlOf r' (.ok schema) = s.sqlOf r (.ok schema) := by
  have hcheck : r'.check = r.check := by rw [Request.check, Request.check, htable, hcolumns]
  simp only [sqlOf, planOf, hcheck, Except.bind]
  cases r.check with
  | error f => rfl
  | ok _ =>
    generalize Plan.ofRequest s.dialect r schema = x at h ⊢
    generalize Plan.ofRequest s.dialect r' schema = y at h ⊢
    cases h with
    | fault e => rfl
    | made h => exact h

/-- **Serving a request reports the texts of its plan and no other SQL.** -/
theorem loggedSql_process (r : Request) :
    Notice.loggedSql ((s.process r).run st).2.notices =
      Notice.loggedSql st.notices ++ s.sqlOf r ((s.describe r.table).run st).1 := by
  have hdescribe := s.loggedSql_describe st r.table
  rw [run_process]
  generalize (s.describe r.table).run st = looked at hdescribe ⊢
  obtain ⟨result, st'⟩ := looked
  cases hcheck : r.check with
  | error f =>
    -- A request that is refused is not planned on any schema.
    have hnone : s.sqlOf r result = [] := by
      cases result <;> simp [sqlOf, planOf, hcheck, Except.bind]
    rw [hnone, List.append_nil]
  | ok _ =>
    cases result with
    | error f => simpa [sqlOf, Except.bind] using hdescribe
    | ok schema =>
      simp only [run_compile, sqlOf, Except.bind]
      cases s.planOf r schema with
      | error f => simpa [Notice.loggedSql_append, loggedSql_plan] using hdescribe
      | ok made =>
        obtain ⟨p, ds⟩ := made
        simp only [run_run, Notice.loggedSql_append, loggedSql_plan, loggedSql_run,
          List.append_nil]
        rw [hdescribe]

/-- **No value reaches a text or the SQL of the log.** Requests that differ in values only, each
taken or skipped alike on the schema, are refused with the same fault or have plans of the same
texts; and serving either of them, in whatever state the schema is found, reports the same SQL. -/
theorem sql_without_values {r r' : Request} {schema : Schema} (h : r.SameButValues schema r') :
    (∀ d, Agree (fun p p' => p'.sqls = p.sqls) (Plan.ofRequest d r schema)
      (Plan.ofRequest d r' schema)) ∧
      ∀ st st' : ServiceState σ, ((s.describe r.table).run st).1 = .ok schema →
        ((s.describe r.table).run st').1 = .ok schema →
        ∃ sqls,
          Notice.loggedSql ((s.process r).run st).2.notices =
            Notice.loggedSql st.notices ++ sqls ∧
          Notice.loggedSql ((s.process r').run st').2.notices =
            Notice.loggedSql st'.notices ++ sqls := by
  have htexts := fun d => Plan.agree_texts d h
  refine ⟨htexts, fun st st' hst hst' => ⟨s.sqlOf r (.ok schema), ?_, ?_⟩⟩
  · rw [loggedSql_process, hst]
  · rw [loggedSql_process, h.table, hst', s.sqlOf_congr h.table h.columns (htexts s.dialect)]

/-! ## A hostile term -/

/-- A search for a text and a number among the rows of an owner. -/
def searching (term number : String) (owner : Value) (page : Page) : Request where
  table := "t"
  columns := [⟨"a", "a", true, true, none⟩, ⟨"n", "n", true, true, none⟩]
  search := ⟨[⟨"a", term, false, true⟩], some ⟨number, false⟩⟩
  order := [⟨"n", .desc⟩]
  page := page
  draw := .null
  base := ⟨[⟨"owner", .eq, some owner⟩], [⟨"gone", .isNull, none⟩]⟩

def searchedSchema : Schema := [⟨"a", "text", .text⟩, ⟨"n", "int4", .integer⟩]

def searchedMemory : ServiceState Memory :=
  ⟨none, { Memory.ofDialect .postgres with tables := [("t", searchedSchema)] }, []⟩

/-- A plain search and a hostile one are logged with the same three texts. -/
theorem sql_without_values_hostile :
    ∃ t t' t'',
      Notice.loggedSql (((⟨Memory.backend .postgres, none⟩ : Service Memory).process
        (searching "x" "7" (.text "me") .first)).run searchedMemory).2.notices = [t, t', t''] ∧
      Notice.loggedSql (((⟨Memory.backend .postgres, none⟩ : Service Memory).process
        (searching "'; DROP TABLE t; --" "12" (.text "' OR 1 = 1") (.of 5 1))).run
          searchedMemory).2.notices = [t, t', t''] := by
  have hsame : (searching "x" "7" (.text "me") .first).SameButValues searchedSchema
      (searching "'; DROP TABLE t; --" "12" (.text "' OR 1 = 1") (.of 5 1)) := by
    refine ⟨rfl, rfl, .cons ⟨rfl, rfl, rfl, by decide, ?_⟩ .nil, .some ⟨rfl, by decide, ?_⟩, rfl,
      .cons ⟨rfl, rfl, rfl⟩ .nil, .cons ⟨rfl, rfl, rfl⟩ .nil⟩
    · decide +kernel
    · decide +kernel
  obtain ⟨-, hlogs⟩ := sql_without_values (⟨Memory.backend .postgres, none⟩ : Service Memory) hsame
  obtain ⟨sqls, h, h'⟩ := hlogs searchedMemory searchedMemory rfl rfl
  exact ⟨_, _, _, rfl, h'.trans (h.symm.trans rfl)⟩

end Service

end GridQuery
