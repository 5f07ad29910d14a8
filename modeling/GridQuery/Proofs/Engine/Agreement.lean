import GridQuery.Proofs.Engine.Interleaving

/-!
# Agreement on the columns of a table

Calls that overlap may read different columns for a table, and store them in any order. From one
invalidation of the table to the next they all answer alike: with the columns that were stored
first.

Main result: `answers_first_stored`.
-/

namespace GridQuery.Interleaving

variable {σ : Type}

/-! ## One period -/

/-- At the start, and after each of its invalidations, nothing is cached for a table. -/
theorem Run.entry_of_opens {s : Service σ} {w : σ} {m : Scene σ} {es : List Event}
    {table : String} (h : Run s (opening w) es m)
    (hopens : es = [] ∨ ∃ fs, es = fs ++ [.invalidated table]) :
    m.state.entry s.dialect table = none := by
  rw [h.entry rfl]
  obtain rfl | ⟨fs, rfl⟩ := hopens
  · rfl
  · simp [Event.effect]

/-- Where nothing is cached at first, what is cached later is what was stored first. -/
theorem Run.entry_eq_firstStored {s : Service σ} {m m' : Scene σ} {es : List Event}
    {table : String} (h : Run s m es m') (hc : m.state.cache.isSome = true)
    (hnone : m.state.entry s.dialect table = none) (hquiet : .invalidated table ∉ es) :
    m'.state.entry s.dialect table = firstStored table es := by
  rw [h.entry hc, hnone, foldl_effect hquiet, Option.none_or]

/-- What was stored first stays so, whatever comes later. -/
theorem firstStored_append {table : String} {es fs : List Event} {schema : Schema}
    (h : firstStored table es = some schema) : firstStored table (es ++ fs) = some schema := by
  rw [firstStored, List.findSome?_append]
  exact Option.or_eq_some_iff.2 (.inl h)

/-- Where nothing is cached at first, answers are what was stored first. -/
theorem Run.firstStored_of_answer {s : Service σ} {m m' : Scene σ} {es : List Event} {e : Event}
    {i : Nat} {table : String} {schema : Schema} (h : Run s m es m')
    (hc : m.state.cache.isSome = true) (hnone : m.state.entry s.dialect table = none)
    (hquiet : .invalidated table ∉ es) (he : e ∈ es)
    (hanswer : e.answer? = some (i, table, schema)) : firstStored table es = some schema := by
  obtain ⟨fs, rest, rfl⟩ := List.append_of_mem he
  rw [List.append_cons] at h hquiet ⊢
  -- The run up to and with the answer has the same first schema.
  obtain ⟨m₁, hsofar, -⟩ := h.split
  obtain ⟨m₂, hfs, hlast⟩ := hsofar.split
  have hfirst := hsofar.entry_eq_firstStored hc hnone fun hin =>
    hquiet (List.mem_append_left _ hin)
  cases hlast with
  | cons hstep hend =>
    cases hend
    rw [hstep.entry_of_answer (hfs.caching hc) hanswer] at hfirst
    exact firstStored_append hfirst.symm

/-- **From one invalidation of a table to the next, all calls for it answer with the schema
that was stored first, and nothing done for one table touches another.** -/
theorem answers_first_stored {s : Service σ} {w : σ} {m : Scene σ}
    {before period after : List Event} {table : String}
    (h : Run s (opening w) (before ++ period ++ after) m)
    (hopens : before = [] ∨ ∃ fs, before = fs ++ [.invalidated table])
    (hquiet : .invalidated table ∉ period) :
    (∀ e ∈ period, ∀ i schema, e.answer? = some (i, table, schema) →
      firstStored table period = some schema) ∧
    ∀ es m₁ e m₂ other d, Run s (opening w) es m₁ → Step s m₁ e m₂ →
      e.stores? other = none → e ≠ .invalidated other →
      m₂.state.entry d other = m₁.state.entry d other := by
  constructor
  · intro e he i schema hanswer
    obtain ⟨_, hrun, -⟩ := h.split
    obtain ⟨m₁, hbefore, hperiod⟩ := hrun.split
    exact hperiod.firstStored_of_answer (hbefore.caching rfl) (hbefore.entry_of_opens hopens)
      hquiet he hanswer
  · intro es m₁ e m₂ other d hrun hstep hstored hinvalid
    exact hstep.entry_frame (hrun.caching rfl) hstored hinvalid d

/-! ## Two calls that read different columns -/

/-- The call that reads first stores last, and answers with what the other one read. -/
def overlap : List Event :=
  [.started 0 "t", .missed 0 "t", .started 1 "t", .missed 1 "t", .read 0 "t" narrow, .changed,
    .read 1 "t" wide, .stored 1 "t" wide wide, .stored 0 "t" narrow wide]

theorem run_overlap :
    ∃ m, Run memory (opening (holding narrow)) overlap m :=
  ⟨_, .cons (.start "t") <| .cons (.miss rfl rfl) <| .cons (.start "t") <| .cons (.miss rfl rfl) <|
    .cons (.read rfl rfl) <| .cons (.change (holding wide)) <| .cons (.read rfl rfl) <|
    .cons (.store rfl rfl) <| .single (.store rfl rfl)⟩

theorem answers_first_stored_overlap :
    firstStored "t" overlap = some wide ∧
    ∀ e ∈ overlap, ∀ i schema, e.answer? = some (i, "t", schema) → schema = wide := by
  have hfirst : firstStored "t" overlap = some wide := rfl
  refine ⟨hfirst, fun e he i schema hanswer => ?_⟩
  obtain ⟨m, hrun⟩ := run_overlap
  have hrun' : Run memory (opening (holding narrow)) ([] ++ overlap ++ []) m := by
    simpa using hrun
  have hquiet : .invalidated "t" ∉ overlap := by simp [overlap]
  have hall := (answers_first_stored hrun' (.inl rfl) hquiet).1
  exact Option.some.inj ((hall e he i schema hanswer).symm.trans hfirst)

end GridQuery.Interleaving
