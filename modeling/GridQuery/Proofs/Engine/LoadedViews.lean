import GridQuery.Proofs.Engine.Stage
import GridQuery.Proofs.Plan.Assembly
import GridQuery.Proofs.View.Loading
import GridQuery.Widget.Query

/-!
# Requests to loaded views

What a request takes from its view was checked when the view was loaded. So a client can ask a
loaded view for anything: the request is valid, its conditions have their values, and all that can
keep it from being planned is a table that has none of the view's columns.

Main result: `Service.compile_loaded_iff`.
-/

namespace GridQuery

/-- A condition with the value it needs is written in every dialect. -/
theorem Condition.exists_predicate {c : Condition} (h : c.Complete) (d : Dialect) :
    ∃ q, c.predicate d = .ok q := by
  unfold predicate
  cases htakes : c.comparison.takesValue with
  | false => exact ⟨_, rfl⟩
  | true =>
    obtain ⟨v, hv⟩ := Option.isSome_iff_exists.1 (h htakes)
    rw [hv]
    exact ⟨_, rfl⟩

namespace Plan

variable {r : Request} {schema : Schema}

theorem isEmpty_select_iff {columns : List Column} :
    (select columns schema).isEmpty = true ↔ ∀ c ∈ columns, ∀ k ∈ schema, k.source ≠ c.source := by
  rw [List.isEmpty_iff, List.eq_nil_iff_forall_not_mem]
  constructor
  · intro h c hc k hk hsource
    have hfound : (schema.find? c.source).isSome = true :=
      List.find?_isSome.2 ⟨k, hk, by simp [hsource]⟩
    obtain ⟨live, hlive⟩ := Option.isSome_iff_exists.1 hfound
    exact h ⟨c.source, live.category⟩ (mem_select.2 ⟨List.mem_map_of_mem hc, live, hlive, rfl⟩)
  · intro h x hx
    obtain ⟨hsource, live, hlive, -⟩ := mem_select.1 hx
    obtain ⟨c, hc, heq⟩ := List.mem_map.1 hsource
    exact h c hc live (List.mem_of_find?_eq_some hlive)
      ((Schema.source_of_find? hlive).trans heq.symm)

/-- **With complete conditions, only a table without the columns keeps a request from its plan.** -/
theorem ofRequest_of_complete (h : ∀ c ∈ r.base.result ++ r.base.all, c.Complete) (d : Dialect)
    (schema : Schema) :
    ∃ rs as, ofRequest d r schema =
      if (select r.columns schema).isEmpty then .error (.noKnownColumn r.table)
      else .ok (assembled d r schema rs as) := by
  obtain ⟨hresult, hall⟩ := List.forall_mem_append.1 h
  obtain ⟨rs, hrs, -⟩ := exists_mapM_forall₂ (q := fun _ _ => True) fun c hc =>
    (Condition.exists_predicate (hresult c hc) d).imp fun _ hq => ⟨hq, trivial⟩
  obtain ⟨as, has, -⟩ := exists_mapM_forall₂ (q := fun _ _ => True) fun c hc =>
    (Condition.exists_predicate (hall c hc) d).imp fun _ hq => ⟨hq, trivial⟩
  refine ⟨rs, as, ?_⟩
  rw [ofRequest_eq, hrs, has]
  rfl

end Plan

theorem View.Valid.check {v : View} (h : v.Valid) (b : Widget.Body) (maxSize : Nat) :
    (b.request v maxSize).check = .ok () := by
  simp [Widget.Body.request, Request.check, h.table, h.columns, h.names]

namespace Service

variable {σ : Type}

/-- **A client cannot make a request to a loaded view fail.** Whatever its body asks for, the
request is valid and its conditions are written, and compiling it fails for one reason only: none
of the view's columns is in the schema. -/
theorem compile_loaded_iff {text : String} {r : Registry} (hloaded : Registry.ofText text = .ok r)
    {v : View} (hv : v ∈ r.views) :
    (∀ c ∈ v.base.result ++ v.base.all, ∀ d, ∃ q, c.predicate d = .ok q) ∧
      ∀ (b : Widget.Body) (maxSize : Nat),
        (b.request v maxSize).check = .ok () ∧
          ∀ (s : Service σ) (st : ServiceState σ) (schema : Schema) (f : EngineFailure),
            ((s.compile (b.request v maxSize) schema).run st).1 = .error f ↔
              (∀ c ∈ v.columns, ∀ k ∈ schema, k.source ≠ c.source) ∧
              f = .invalidRequest (.noKnownColumn v.table) ∧
              f.message = "invalid request: none of the configured columns exist in table '" ++
                v.table ++ "'" := by
  have hvalid := Registry.valid_of_mem hloaded hv
  refine ⟨fun c hc d => Condition.exists_predicate (hvalid.conditions c hc) d, fun b maxSize =>
    ⟨hvalid.check b maxSize, fun s st schema f => ?_⟩⟩
  obtain ⟨rs, as, hplan⟩ := Plan.ofRequest_of_complete (r := b.request v maxSize)
    hvalid.conditions s.dialect schema
  have hcompiled : ((s.compile (b.request v maxSize) schema).run st).1 =
      ((Plan.ofRequest s.dialect (b.request v maxSize) schema).mapError .invalidRequest).map
        fun p => (p, Diagnostics.collect (Plan.findings (b.request v maxSize) schema)) := by
    rw [run_compile, planOf, hvalid.check b maxSize]
  -- The request is valid and its conditions are written, so what is left is the schema.
  rw [hcompiled, hplan]
  cases hselected : (Plan.select (b.request v maxSize).columns schema).isEmpty with
  | true =>
    have hnone := Plan.isEmpty_select_iff.1 hselected
    constructor
    · intro herror
      obtain rfl := Except.error.inj herror
      exact ⟨hnone, rfl, rfl⟩
    · rintro ⟨-, rfl, -⟩
      rfl
  | false =>
    constructor
    · intro herror
      cases herror
    · rintro ⟨hnone, -⟩
      exact absurd (Plan.isEmpty_select_iff.2 hnone) (Bool.eq_false_iff.1 hselected)

/-- A document of one view with a condition. -/
def guardedText : String :=
  "\x7b\"v\":\x7b\"table\":\"t\",\"columns\":[\x7b\"source\":\"a\"\x7d],\"where_all\":" ++
    "[\x7b\"column\":\"o\",\"op\":\"eq\",\"value\":1\x7d]\x7d\x7d"

theorem ofText_guardedText :
    (Registry.ofText guardedText).toOption.any
      (·.views.any fun v => v.columns.all (·.source == "a") && v.base.all.length == 1) = true := by
  decide +kernel

/-- The view has a condition, and a table without its column is all that is in its way. -/
theorem compile_loaded_iff_guardedText :
    ∃ r, Registry.ofText guardedText = .ok r ∧ ∃ v ∈ r.views, v.base.all.length = 1 ∧
      (∀ c ∈ v.base.all, ∃ q, c.predicate .mysql = .ok q) ∧
      ∀ (s : Service Unit) (b : Widget.Body),
        ((s.compile (b.request v 10) [⟨"b", "text", .text⟩]).run ⟨none, (), []⟩).1 =
          .error (.invalidRequest (.noKnownColumn v.table)) := by
  have hloaded := ofText_guardedText
  cases hr : Registry.ofText guardedText with
  | error f => simp [hr, Except.toOption] at hloaded
  | ok r =>
    rw [hr] at hloaded
    obtain ⟨v, hv, hview⟩ := List.any_eq_true.1 hloaded
    rw [Bool.and_eq_true, List.all_eq_true, beq_iff_eq] at hview
    obtain ⟨hcolumns, hlength⟩ := hview
    obtain ⟨hconditions, hcompile⟩ := compile_loaded_iff hr hv
    refine ⟨r, rfl, v, hv, hlength, fun c hc => hconditions c (List.mem_append_right _ hc) .mysql,
      fun s b => ((hcompile b 10).2 s _ _ _).2 ⟨fun c hc k hk => ?_, rfl, rfl⟩⟩
    rw [List.mem_singleton.1 hk, beq_iff_eq.1 (hcolumns c hc)]
    decide

end Service

end GridQuery
