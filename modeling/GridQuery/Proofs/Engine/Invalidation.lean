import GridQuery.Proofs.Engine.Interleaving

/-!
# What an invalidation reaches

An invalidation empties the place of a table in the cache. It does not reach a call that has
read the catalog and not yet stored what it read: that call puts the old columns back, and calls
that start later find them.

The invariant is `Stems`: what is cached for the table, and what calls are about to store for it,
was read since the invalidation. It holds right after the invalidation exactly if no call is at
that point.

Main result: `fresh_after_invalidation_iff`.
-/

namespace GridQuery.Interleaving

variable {σ : Type} {s : Service σ} {m m' : Scene σ} {e : Event} {es fs : List Event}
  {table : String}

/-! ## Where schemas stem from -/

/-- All that is at hand for a table was read in the given events. -/
structure Stems (s : Service σ) (table : String) (es : List Event) (m : Scene σ) : Prop where
  caching : m.state.cache.isSome = true
  storing : ∀ (j : Nat) (schema : Schema),
    m.calls[j]? = some (.storing table schema) → .read j table schema ∈ es
  cached : ∀ schema : Schema, m.state.entry s.dialect table = some schema →
    ∃ j, .read j table schema ∈ es ∧ .stored j table schema schema ∈ es

/-- Where a call moves on, a call that is found afterwards was there before or is the moved one. -/
theorem getElem?_set_cases {calls : List Call} {i j : Nat} {c d : Call}
    (h : (calls.set i c)[j]? = some d) : calls[j]? = some d ∨ i = j ∧ c = d := by
  by_cases hij : i = j
  · subst hij
    have hlt : i < calls.length := by simpa using (List.getElem?_eq_some_iff.1 h).1
    rw [List.getElem?_set_self hlt] at h
    exact .inr ⟨rfl, Option.some.inj h⟩
  · exact .inl (by rwa [List.getElem?_set_ne hij] at h)

/-- Only a call that reads the catalog gets something to store. -/
theorem Step.storing (h : Step s m e m') {j : Nat} {schema : Schema}
    (hj : m'.calls[j]? = some (.storing table schema)) :
    m.calls[j]? = some (.storing table schema) ∨ e = .read j table schema := by
  cases h with
  | invalidate | change => exact .inl hj
  | start t =>
    rw [List.getElem?_append] at hj
    split at hj
    · exact .inl hj
    · obtain ⟨_, hlast⟩ := List.getElem?_eq_some_iff.1 hj
      simp at hlast
  | read =>
    obtain hbefore | ⟨rfl, hnow⟩ := getElem?_set_cases hj
    · exact .inl hbefore
    · obtain ⟨rfl, rfl⟩ := Call.storing.inj hnow
      exact .inr rfl
  | find | miss | fail | store =>
    obtain hbefore | ⟨-, hnow⟩ := getElem?_set_cases hj
    · exact .inl hbefore
    · cases hnow

/-- What a step leaves in the cache was there, or the call that stored it had read it. -/
theorem Step.cached (h : Step s m e m') (hc : m.state.cache.isSome = true) {schema : Schema}
    (hentry : m'.state.entry s.dialect table = some schema) :
    m.state.entry s.dialect table = some schema ∨
      ∃ j, m.calls[j]? = some (.storing table schema) ∧ e = .stored j table schema schema := by
  rw [h.entry hc] at hentry
  obtain ⟨-, hnone⟩ | ⟨i, t, x, answer, rfl, hi, hrun⟩ | ⟨t, rfl, -⟩ := h.cache_cases
  · rw [Event.effect_eq_self (hnone table).1 (hnone table).2] at hentry
    exact .inl hentry
  · by_cases ht : t = table
    · subst ht
      have hanswer := (Service.store_caching hrun hc).1
      cases hbefore : m.state.entry s.dialect t with
      | some stored => exact .inl (by simpa [Event.effect, hbefore] using hentry)
      | none =>
        obtain rfl : x = schema := by simpa [Event.effect, hbefore] using hentry
        rw [hbefore, Option.getD_none] at hanswer
        exact .inr ⟨i, hi, by rw [hanswer]⟩
    · exact .inl (by simpa [Event.effect, ht] using hentry)
  · by_cases ht : t = table
    · simp [Event.effect, ht] at hentry
    · exact .inl (by simpa [Event.effect, ht] using hentry)

/-- **One step.** -/
theorem Stems.step (hs : Stems s table es m) (h : Step s m e m') :
    Stems s table (es ++ [e]) m' where
  caching := h.caching hs.caching
  storing j schema hj := by
    rw [List.mem_append]
    obtain hbefore | rfl := h.storing hj
    · exact .inl (hs.storing j schema hbefore)
    · exact .inr (List.mem_singleton_self _)
  cached schema hentry := by
    obtain hbefore | ⟨j, hj, rfl⟩ := h.cached hs.caching hentry
    · obtain ⟨j, hread, hstored⟩ := hs.cached schema hbefore
      exact ⟨j, List.mem_append_left _ hread, List.mem_append_left _ hstored⟩
    · exact ⟨j, List.mem_append_left _ (hs.storing j schema hj),
        List.mem_append_right _ (List.mem_singleton_self _)⟩

/-- **A whole run.** -/
theorem Stems.run (hs : Stems s table es m) (h : Run s m fs m') :
    Stems s table (es ++ fs) m' := by
  induction h generalizing es with
  | nil => simpa using hs
  | @cons _ _ _ e fs hstep _ ih =>
    rw [List.append_cons]
    exact ih (hs.step hstep)

/-- An answer was read and stored in the events that all at hand stems from. -/
theorem Stems.answer (hs : Stems s table es m) (h : Step s m e m') {i : Nat} {schema : Schema}
    (hanswer : e.answer? = some (i, table, schema)) :
    ∃ j, .read j table schema ∈ es ∧ .stored j table schema schema ∈ es ++ [e] := by
  obtain ⟨j, hread, hstored⟩ :=
    (hs.step h).cached schema (h.entry_of_answer hs.caching hanswer)
  obtain hread | hread := List.mem_append.1 hread
  · exact ⟨j, hread, hstored⟩
  · -- a step that reads does not answer
    obtain rfl := List.mem_singleton.1 hread
    cases hanswer

/-! ## After an invalidation -/

/-- Right after an invalidation all at hand stems from later reads if no call is about to store
an earlier one. -/
theorem stems_of_invalidated (h : Step s m (.invalidated table) m')
    (hc : m.state.cache.isSome = true)
    (hidle : ∀ (j : Nat) (schema : Schema), m.calls[j]? ≠ some (.storing table schema)) :
    Stems s table [] m' where
  caching := h.caching hc
  storing j schema hj := by
    obtain hbefore | hread := h.storing hj
    · exact absurd hbefore (hidle j schema)
    · cases hread
  cached schema hentry := by
    rw [h.entry hc] at hentry
    simp [Event.effect] at hentry

/-- A call that was about to store what it read does so after the invalidation, and the next
call finds it. -/
theorem run_of_storing (h : Step s m (.invalidated table) m') (hc : m.state.cache.isSome = true)
    {j : Nat} {schema : Schema} (hj : m.calls[j]? = some (.storing table schema)) :
    ∃ m₂, Run s m' ([.stored j table schema schema, .started m'.calls.length table] ++
      [.found m'.calls.length table schema]) m₂ := by
  have hj' : m'.calls[j]? = some (.storing table schema) := by
    cases h
    exact hj
  have hnone : m'.state.entry s.dialect table = none := by
    rw [h.entry hc]
    simp [Event.effect]
  obtain ⟨answer, st, hrun⟩ : ∃ answer st, (s.store table schema).run m'.state = (answer, st) :=
    ⟨_, _, rfl⟩
  obtain ⟨rfl, -, hentry⟩ := Service.store_caching hrun (h.caching hc)
  rw [hnone, Option.getD_none] at hrun hentry
  have hstore := Step.store hj' hrun
  have hstart := Step.start (s := s) (m := ⟨st, m'.calls.set j (.done (.ok schema))⟩) table
  rw [List.length_set] at hstart
  have hlast : (m'.calls.set j (.done (.ok schema)) ++ [.looking table])[m'.calls.length]? =
      some (.looking table) := by simp
  have hfind := Step.find (m := ⟨st, _⟩) hlast
    (by rw [Service.run_lookUp, hentry, if_pos ⟨rfl, rfl⟩])
  exact ⟨_, .cons hstore (.cons hstart (.single hfind))⟩

/-- **Calls that start after an invalidation of a table answer only with what was read from the
catalog after it, exactly if at the invalidation no call stands between reading the catalog for
the table and storing what it read.** -/
theorem fresh_after_invalidation_iff {w : σ} {before : List Event}
    (hbefore : Run s (opening w) before m) (h : Step s m (.invalidated table) m') :
    (∀ es e m₂ i schema, Run s m' (es ++ [e]) m₂ → .started i table ∈ es →
      e.answer? = some (i, table, schema) →
      ∃ j, .read j table schema ∈ es ∧ .stored j table schema schema ∈ es ++ [e]) ↔
    ∀ (j : Nat) (schema : Schema), m.calls[j]? ≠ some (.storing table schema) := by
  have hc : m.state.cache.isSome = true := hbefore.caching rfl
  constructor
  · intro hfresh j schema hj
    obtain ⟨m₂, hrun⟩ := run_of_storing h hc hj
    obtain ⟨k, hread, -⟩ := hfresh _ _ m₂ m'.calls.length schema hrun (by simp) rfl
    simp at hread
  · intro hidle es e m₂ i schema hrun _ hanswer
    obtain ⟨m₁, hes, hlast⟩ := hrun.split
    have hstems := (stems_of_invalidated h hc hidle).run hes
    cases hlast with
    | cons hstep _ => exact hstems.answer hstep hanswer

/-- An invalidation while a call is on its way to the catalog is in time. -/
theorem fresh_after_invalidation_iff_reading :
    ∃ m m', Run memory (opening (holding narrow)) [.started 0 "t", .missed 0 "t"] m ∧
      Step memory m (.invalidated "t") m' ∧
      ∀ es e m₂ i schema, Run memory m' (es ++ [e]) m₂ → .started i "t" ∈ es →
        e.answer? = some (i, "t", schema) →
        ∃ j, .read j "t" schema ∈ es ∧ .stored j "t" schema schema ∈ es ++ [e] := by
  have hbefore : Run memory (opening (holding narrow)) [.started 0 "t", .missed 0 "t"]
      ⟨⟨some .empty, holding narrow, []⟩, [.reading "t"]⟩ :=
    .cons (.start "t") (.single (.miss rfl rfl))
  have hstep := Step.invalidate (s := memory)
    (m := ⟨⟨some .empty, holding narrow, []⟩, [.reading "t"]⟩) "t" rfl
  refine ⟨_, _, hbefore, hstep, (fresh_after_invalidation_iff hbefore hstep).2 fun j schema => ?_⟩
  cases j <;> simp

/-- A call reads the table, which then gets a column and is invalidated. -/
def overtaken : List Event := [.started 0 "t", .missed 0 "t", .read 0 "t" narrow, .changed]

/-- The call stores what it read, and another one starts. -/
def belated : List Event := [.stored 0 "t" narrow narrow, .started 1 "t"]

/-- **A call that starts after an invalidation can answer with what was read before it.** -/
theorem stale_after_invalidation :
    (∃ m m' m₂, Run memory (opening (holding narrow)) overtaken m ∧
      Step memory m (.invalidated "t") m' ∧
      Run memory m' (belated ++ [.found 1 "t" narrow]) m₂) ∧
    .started 1 "t" ∈ belated ∧ .read 0 "t" narrow ∈ overtaken ∧
    ∀ j schema, .read j "t" schema ∉ belated := by
  refine ⟨⟨_, _, _, .cons (.start "t") (.cons (.miss rfl rfl) (.cons (.read rfl rfl)
    (.single (.change (holding wide))))), .invalidate "t" rfl,
    .cons (.store rfl rfl) (.cons (.start "t") (.single (.find rfl rfl)))⟩, ?_, ?_, ?_⟩
  · simp [belated]
  · simp [overtaken]
  · simp [belated]

end GridQuery.Interleaving
