import GridQuery.Proofs.Engine.Stage
import GridQuery.Proofs.Plan.Outline

/-!
# Services of different dialects

Two services may speak to databases of different dialects. On one schema they refuse the same
requests, plan all others alike, and report the same on the way.

Main result: `Service.plans_alike`.
-/

namespace GridQuery.Service

variable {σ τ : Type}

/-- What services make of a request and a schema differs in the text of statements only. -/
theorem agree_planOf (s : Service σ) (s' : Service τ) (r : Request) (schema : Schema) :
    Agree (fun x y => Plan.Alike s.dialect s'.dialect x.1 y.1 ∧ y.2 = x.2)
      (s.planOf r schema) (s'.planOf r schema) := by
  unfold planOf
  cases r.check with
  | error f => exact .fault _
  | ok _ =>
    have hplans := (Plan.agree_dialects s.dialect s'.dialect r schema).mapError
      EngineFailure.invalidRequest
    exact hplans.map fun p p' h => ⟨h, rfl⟩

/-- **Dialects differ in their SQL only.** Planned for two dialects, a request is refused with the
same fault, or its plans select the same columns and ask for the same: in each statement the same
values, a WHERE in both or in none, and the same sort directions. Services report the same
diagnostics then, and the same even if they refuse. -/
theorem plans_alike (r : Request) (schema : Schema) :
    (∀ d d', Agree (Plan.Alike d d') (Plan.ofRequest d r schema) (Plan.ofRequest d' r schema)) ∧
      ∀ (s : Service σ) (s' : Service τ) (st : ServiceState σ) (st' : ServiceState τ),
        Agree (fun x y => Plan.Alike s.dialect s'.dialect x.1 y.1 ∧ y.2 = x.2)
            ((s.compile r schema).run st).1 ((s'.compile r schema).run st').1 ∧
          ∃ ns, ((s.compile r schema).run st).2.notices = st.notices ++ ns ∧
            ((s'.compile r schema).run st').2.notices = st'.notices ++ ns := by
  refine ⟨fun d d' => Plan.agree_dialects d d' r schema, fun s s' st st' => ?_⟩
  rw [run_compile, run_compile]
  exact ⟨agree_planOf s s' r schema, planNotices r schema, rfl, rfl⟩

end GridQuery.Service
