import GridQuery.Proofs.Backend.Decoding

/-!
# What a backend makes of answers

A page is read by a fixed sequence of statements, its script. When all of them are answered with
results that can be read, the backend gives the rows of the page and both counts.

Main result: `Connection.fetchPage_of_answers`.
-/

namespace GridQuery

variable {σ α β : Type}

/-! ## Actions that do not wait -/

/-- The action gives the result whatever time is left, takes none of it, and leaves the world so. -/
def Action.Gives (a : Action σ α) (w : σ) (v : α) (w' : σ) : Prop :=
  ∀ left, (OptionT.run a).run ⟨left, w⟩ = (some v, ⟨left, w'⟩)

namespace Action.Gives

variable {w w' w'' : σ}

theorem pure (v : α) (w : σ) : Gives (Pure.pure v : Action σ α) w v w := fun _ => rfl

theorem bind {a : Action σ α} {f : α → Action σ β} {v : α} {u : β} (h : Gives a w v w')
    (hf : Gives (f v) w' u w'') : Gives (a >>= f) w u w'' := by
  intro left
  have hbind : (OptionT.run (a >>= f)).run ⟨left, w⟩ =
      match (OptionT.run a).run ⟨left, w⟩ with
      | (some v, t) => (OptionT.run (f v)).run t
      | (none, t) => (none, t) := by
    rw [OptionT.run_bind, Option.elimM, StateT.run_bind]
    show _ = match (OptionT.run a).run ⟨left, w⟩ with | (some v, t) => _ | (none, t) => _
    obtain ⟨answer, t⟩ := (OptionT.run a).run ⟨left, w⟩
    cases answer <;> rfl
  rw [hbind, h left]
  exact hf left

theorem runFor {a : Action σ α} {v : α} (h : Gives a w v w') (time : Option Nat) :
    a.runFor time w = (some v, w') := by
  rw [Action.runFor, h time]

end Action.Gives

/-! ## Answers -/

namespace Connection

/-- The statements, sent one after the other, are answered with these results. -/
inductive Answers (c : Connection σ) : σ → List Statement → List ResultSet → σ → Prop
  | done (w : σ) : Answers c w [] [] w
  | next {w w' w'' : σ} {st : Statement} {rs : ResultSet} {sts : List Statement}
      {rss : List ResultSet} (h : c.execute st w = (.ok rs, w'))
      (rest : Answers c w' sts rss w'') : Answers c w (st :: sts) (rs :: rss) w''

/-- The statements that read the page of a plan. -/
def script (d : Dialect) (p : Plan) : List Statement :=
  (match d with
    | .mysql => [plain "BEGIN"]
    | .postgres => [plain "BEGIN",
      plain "SET TRANSACTION ISOLATION LEVEL REPEATABLE READ, READ ONLY"]) ++
    [p.data, p.filteredCount, p.totalCount, plain "COMMIT"]

theorem script_eq (d : Dialect) (p : Plan) :
    script d p =
      (opening d).map plain ++ [p.data, p.filteredCount, p.totalCount, plain "COMMIT"] := by
  cases d <;> rfl

variable {c : Connection σ} {w w' w'' : σ}

theorem Answers.split {sts sts' : List Statement} {rss rss' : List ResultSet}
    (h : c.Answers w (sts ++ sts') (rss ++ rss') w') (hlength : sts.length = rss.length) :
    ∃ w'', c.Answers w sts rss w'' ∧ c.Answers w'' sts' rss' w' := by
  induction sts generalizing w rss with
  | nil =>
    obtain rfl := List.eq_nil_of_length_eq_zero hlength.symm
    exact ⟨w, .done w, h⟩
  | cons st sts ih =>
    cases rss with
    | nil => cases hlength
    | cons rs rss =>
      cases h with
      | next hst h =>
        obtain ⟨w'', hsts, hrest⟩ := ih h (Nat.succ.inj hlength)
        exact ⟨w'', .next hst hsts, hrest⟩

theorem Answers.length_eq {sts : List Statement} {rss : List ResultSet}
    (h : c.Answers w sts rss w') : sts.length = rss.length := by
  induction h with
  | done w => rfl
  | next h rest ih => rw [List.length_cons, List.length_cons, ih]

theorem gives_send {st : Statement} {x : Except DatabaseError ResultSet}
    (h : c.execute st w = (x, w')) : (c.send st).Gives w x w' := by
  intro left
  show (some (c.execute st w).1, (⟨left, (c.execute st w).2⟩ : Timed σ)) = _
  rw [h]

theorem gives_fetchRows {st : Statement} (selected : List SelectedColumn) {rs : ResultSet}
    (h : c.execute st w = (.ok rs, w')) :
    (c.fetchRows st selected).Gives w (rs.decodeRows c.mismatch selected) w' :=
  (gives_send h).bind (.pure _ w')

theorem gives_fetchCount {st : Statement} {rs : ResultSet} (h : c.execute st w = (.ok rs, w')) :
    (c.fetchCount st).Gives w (rs.decodeCount c.mismatch) w' :=
  (gives_send h).bind (.pure _ w')

theorem gives_sendAll {sqls : List String} {rss : List ResultSet}
    (h : c.Answers w (sqls.map plain) rss w') : (c.sendAll sqls).Gives w (.ok ()) w' := by
  induction sqls generalizing w rss with
  | nil =>
    cases h
    exact .pure _ _
  | cons sql sqls ih =>
    cases h with
    | next hst hrest => exact (gives_send hst).bind (ih hrest)

theorem gives_pageInSequence {p : Plan} {page filtered total : ResultSet} {rows : List Row}
    {m n : Nat} (h : c.Answers w [p.data, p.filteredCount, p.totalCount] [page, filtered, total] w')
    (hrows : page.decodeRows c.mismatch p.selected = .ok rows)
    (hfiltered : filtered.decodeCount c.mismatch = .ok m)
    (htotal : total.decodeCount c.mismatch = .ok n) :
    (Backend.pageInSequence c.fetchRows c.fetchCount p).Gives w (.ok ⟨rows, m, n⟩) w' := by
  -- Three answers for three statements, peeled off in their order.
  cases h with
  | next hdata h =>
    cases h with
    | next hfilteredCount h =>
      cases h with
      | next htotalCount h =>
        cases h
        have hpage := gives_fetchRows p.selected hdata
        have hm := gives_fetchCount hfilteredCount
        have hn := gives_fetchCount htotalCount
        rw [hrows] at hpage
        rw [hfiltered] at hm
        rw [htotal] at hn
        exact hpage.bind (hm.bind (hn.bind (.pure _ _)))

/-- **When all statements of its script are answered, a page is read.** -/
theorem fetchPage_of_answers {d : Dialect} {p : Plan} {opened : List ResultSet}
    {page filtered total closed : ResultSet} {rows : List Row} {m n : Nat}
    (h : c.Answers w (script d p) (opened ++ [page, filtered, total, closed]) w')
    (hrows : page.decodeRows c.mismatch p.selected = .ok rows)
    (hfiltered : filtered.decodeCount c.mismatch = .ok m)
    (htotal : total.decodeCount c.mismatch = .ok n) (time : Option Nat) :
    ((c.backend d).fetchPage p).runFor time w = (some (.ok ⟨rows, m, n⟩), w') := by
  -- The answers are parted as the script is: what opens the transaction, the page, the commit.
  rw [script_eq] at h
  have hlength := h.length_eq
  simp only [List.length_append, List.length_map, List.length_cons, List.length_nil,
    Nat.add_right_cancel_iff] at hlength
  obtain ⟨w₁, hopening, h⟩ := h.split ((List.length_map _).trans hlength)
  obtain ⟨w₂, hpage, hcommit⟩ : ∃ w₂,
      c.Answers w₁ [p.data, p.filteredCount, p.totalCount] [page, filtered, total] w₂ ∧
      c.Answers w₂ (["COMMIT"].map plain) [closed] w' := h.split rfl
  have hopen := gives_sendAll hopening
  have hread := gives_pageInSequence hpage hrows hfiltered htotal
  have hclose := gives_sendAll hcommit
  have htransaction : (c.transaction d p).Gives w (.ok ⟨rows, m, n⟩) w' :=
    hopen.bind (hread.bind (hclose.bind (.pure _ _)))
  have hfetch : ((c.backend d).fetchPage p).Gives w (.ok ⟨rows, m, n⟩) w' :=
    htransaction.bind (.pure ((Except.ok _).mapError (Backend.executionFailure d p)) _)
  exact hfetch.runFor time

theorem execute_of_script (script : Script) (h : script.failures = []) (log : List Statement)
    (st : Statement) :
    let arrived : Statement := ⟨st.sql, st.values.map Script.arrived⟩
    Script.connection.execute st ⟨script, log⟩ =
      (.ok (script.result arrived), ⟨script, log ++ [arrived]⟩) := by
  have hnone : script.failure? st.sql = none := by
    rw [Script.failure?, h]
    rfl
  simp only [Script.connection, Script.execute]
  rw [hnone]

/-- A script without failures answers every statement. -/
theorem answers_of_script (script : Script) (h : script.failures = []) (log sts : List Statement) :
    ∃ log', Script.connection.Answers ⟨script, log⟩ sts
      (sts.map fun st => script.result ⟨st.sql, st.values.map Script.arrived⟩) ⟨script, log'⟩ := by
  induction sts generalizing log with
  | nil => exact ⟨log, .done _⟩
  | cons st sts ih =>
    have hexecute := execute_of_script script h log st
    obtain ⟨log', hrest⟩ := ih (log ++ [⟨st.sql, st.values.map Script.arrived⟩])
    exact ⟨log', .next hexecute hrest⟩

end Connection

end GridQuery
