import GridQuery.Backend.Memory
import GridQuery.Proofs.Backend.Answers

/-!
# What is sent to read a page

A page is read in steps. A step sends a statement and reads its result, and it fails if the
statement does or if the result cannot be read. The steps of the script are taken in their order up
to the first that fails, which is the last one taken and whose failure is the answer. When all of
them pass, the answer is the page that their results hold, the same that the three queries would
give on their own.

The proof splits the script where it stops (`Connection.Stops.split`); each part of the transaction
then either passes as a whole or ends with that failure.

Main result: `Connection.fetchPage_transcript`.
-/

namespace GridQuery

variable {σ : Type}

/-- The page of a plan as a backend without transactions reads it. -/
def Backend.pageApart (b : Backend σ) (p : Plan) :
    Action σ (Except ExecutionFailure PageRows) := do
  return (← pageInSequence b.fetchRows b.fetchCount p).mapError (executionFailure b.dialect p)

theorem Memory.fetchPage_backend (d : Dialect) (p : Plan) :
    (backend d).fetchPage p = (backend d).pageApart p := rfl

/-- The results of the three queries of a plan hold the rows of the page and both counts. -/
structure PageRows.ReadFrom (page : PageRows) (p : Plan) (data filtered total : ResultSet) :
    Prop where
  rows : List.Forall₂ (Row.ReadFrom p.selected) data.rows page.rows
  filtered : filtered.Counts page.filtered
  total : total.Counts page.total

/-- What the results hold is what is decoded from them. -/
theorem PageRows.ReadFrom.decoded {p : Plan} {page : PageRows} {data filtered total : ResultSet}
    (h : page.ReadFrom p data filtered total) (mismatch : Target → Cell → String) :
    data.decodeRows mismatch p.selected = .ok page.rows ∧
      filtered.decodeCount mismatch = .ok page.filtered ∧
      total.decodeCount mismatch = .ok page.total :=
  ⟨ResultSet.decodeRows_eq_ok_iff.2 h.rows, ResultSet.decodeCount_eq_ok_iff.2 h.filtered,
    ResultSet.decodeCount_eq_ok_iff.2 h.total⟩

namespace Connection

/-! ## Steps -/

/-- A statement that is sent, with the results that can be read, and what is wrong with the others.
-/
structure Step where
  statement : Statement
  Sound : ResultSet → Prop
  Faulty : ResultSet → DatabaseError → Prop
  sound_or_faulty : ∀ rs, Sound rs ∨ ∃ e, Faulty rs e
  not_faulty : ∀ rs e, Sound rs → ¬ Faulty rs e

/-- A statement whose result is not looked at. -/
def Step.command (sql : String) : Step where
  statement := plain sql
  Sound _ := True
  Faulty _ _ := False
  sound_or_faulty _ := .inl trivial
  not_faulty _ _ _ := not_false

/-- A query for rows that have text or NULL under each of the columns. -/
def Step.rows (mismatch : Target → Cell → String) (st : Statement)
    (selected : List SelectedColumn) : Step where
  statement := st
  Sound rs := ∀ row ∈ rs.rows, Covers selected.length row
  Faulty rs := FirstFault (Covers selected.length) (RowFault mismatch selected.length) rs.rows
  sound_or_faulty := (ResultSet.checks_decodeRows mismatch selected).sound_or_faulty
  not_faulty _ _ := (ResultSet.checks_decodeRows mismatch selected).not_faulty

/-- A query for a count. -/
def Step.count (mismatch : Target → Cell → String) (st : Statement) : Step where
  statement := st
  Sound rs := ∃ n, rs.Counts n
  Faulty := ResultSet.CountFault mismatch
  sound_or_faulty := (ResultSet.checks_decodeCount mismatch).sound_or_faulty
  not_faulty _ _ := (ResultSet.checks_decodeCount mismatch).not_faulty

/-- The steps that read the three results of a plan. -/
def queries (c : Connection σ) (p : Plan) : List Step :=
  [.rows c.mismatch p.data p.selected, .count c.mismatch p.filteredCount,
    .count c.mismatch p.totalCount]

/-- The steps that read the page of a plan. -/
def steps (c : Connection σ) (d : Dialect) (p : Plan) : List Step :=
  (opening d).map .command ++ (c.queries p ++ ["COMMIT"].map .command)

theorem statements_steps (c : Connection σ) (d : Dialect) (p : Plan) :
    (c.steps d p).map (·.statement) = script d p := by
  cases d <;> rfl

/-- What a step comes to: it fails if the statement does, or if its result cannot be read. -/
inductive Takes (c : Connection σ) (s : Step) (w w' : σ) : Except DatabaseError ResultSet → Prop
  | refused {e : DatabaseError} (h : c.execute s.statement w = (.error e, w')) :
      Takes c s w w' (.error e)
  | unreadable {rs : ResultSet} {e : DatabaseError} (h : c.execute s.statement w = (.ok rs, w'))
      (hrs : s.Faulty rs e) : Takes c s w w' (.error e)
  | passed {rs : ResultSet} (h : c.execute s.statement w = (.ok rs, w')) (hrs : s.Sound rs) :
      Takes c s w w' (.ok rs)

/-- All of the steps pass, with these results. -/
inductive Passes (c : Connection σ) : σ → List Step → List ResultSet → σ → Prop
  | done (w : σ) : Passes c w [] [] w
  | next {w w' w'' : σ} {s : Step} {ss : List Step} {rs : ResultSet} {rss : List ResultSet}
      (h : c.Takes s w w' (.ok rs)) (rest : Passes c w' ss rss w'') :
      Passes c w (s :: ss) (rs :: rss) w''

/-- The steps are taken up to one that fails. -/
inductive Stops (c : Connection σ) : σ → List Step → List Step → DatabaseError → σ → Prop
  | here {w w' : σ} {s : Step} {ss : List Step} {e : DatabaseError}
      (h : c.Takes s w w' (.error e)) : Stops c w (s :: ss) [s] e w'
  | later {w w' w'' : σ} {s : Step} {ss taken : List Step} {rs : ResultSet} {e : DatabaseError}
      (h : c.Takes s w w' (.ok rs)) (rest : Stops c w' ss taken e w'') :
      Stops c w (s :: ss) (s :: taken) e w''

section

variable {c : Connection σ} {w w' w'' : σ} {s : Step} {ss ss' taken : List Step}
  {rs : ResultSet} {rss : List ResultSet} {e : DatabaseError}
  {result result' : Except DatabaseError ResultSet}

variable (c) in
theorem exists_takes (s : Step) (w : σ) : ∃ result w', c.Takes s w w' result := by
  cases hexecute : c.execute s.statement w with
  | mk answer w' =>
    cases answer with
    | error e => exact ⟨_, w', .refused hexecute⟩
    | ok rs =>
      rcases s.sound_or_faulty rs with hrs | ⟨e, hrs⟩
      · exact ⟨_, w', .passed hexecute hrs⟩
      · exact ⟨_, w', .unreadable hexecute hrs⟩

/-- A step that passes ends in one way only. -/
theorem Takes.of_passed (h : c.Takes s w w' (.ok rs)) (h' : c.Takes s w w'' result) :
    result = .ok rs ∧ w'' = w' := by
  cases h with
  | passed h hrs =>
    cases h' with
    | refused h' =>
      rw [h] at h'
      cases h'
    | unreadable h' hrs' =>
      rw [h] at h'
      cases h'
      exact absurd hrs' (s.not_faulty _ _ hrs)
    | passed h' hrs' =>
      rw [h] at h'
      cases h'
      exact ⟨rfl, rfl⟩

theorem Takes.sound (h : c.Takes s w w' (.ok rs)) : s.Sound rs := by
  cases h with
  | passed _ hrs => exact hrs

/-- Steps that pass are answered. -/
theorem Passes.answers (h : c.Passes w ss rss w') :
    c.Answers w (ss.map (·.statement)) rss w' := by
  induction h with
  | done w => exact .done w
  | next h _ ih =>
    cases h with
    | passed h hrs => exact .next h ih

theorem Passes.split (h : c.Passes w (ss ++ ss') rss w') :
    ∃ rss₁ rss₂ w₁, rss = rss₁ ++ rss₂ ∧ c.Passes w ss rss₁ w₁ ∧ c.Passes w₁ ss' rss₂ w' := by
  induction ss generalizing w rss with
  | nil => exact ⟨[], rss, w, rfl, .done w, h⟩
  | cons s ss ih =>
    cases h with
    | next hs h =>
      obtain ⟨rss₁, rss₂, w₁, rfl, hss, hss'⟩ := ih h
      exact ⟨_ :: rss₁, rss₂, w₁, rfl, .next hs hss, hss'⟩

/-- Steps stop in their first part, or that passes and they stop in the second. -/
theorem Stops.split (h : c.Stops w (ss ++ ss') taken e w') :
    c.Stops w ss taken e w' ∨
      ∃ rss w₁ taken', c.Passes w ss rss w₁ ∧ c.Stops w₁ ss' taken' e w' := by
  induction ss generalizing w taken with
  | nil => exact .inr ⟨[], w, taken, .done w, h⟩
  | cons s ss ih =>
    cases h with
    | here hs => exact .inl (.here hs)
    | later hs h =>
      rcases ih h with hss | ⟨rss, w₁, taken', hss, hss'⟩
      · exact .inl (.later hs hss)
      · exact .inr ⟨_ :: rss, w₁, taken', .next hs hss, hss'⟩

/-- The failing step is the last one taken. -/
theorem Stops.last (h : c.Stops w ss taken e w') :
    ∃ before step after rss w₁, ss = before ++ step :: after ∧ taken = before ++ [step] ∧
      c.Passes w before rss w₁ ∧ c.Takes step w₁ w' (.error e) := by
  induction h with
  | here hs => exact ⟨[], _, _, [], _, rfl, rfl, .done _, hs⟩
  | later hs _ ih =>
    obtain ⟨before, step, after, rss, w₁, rfl, rfl, hbefore, hstep⟩ := ih
    exact ⟨_ :: before, step, after, _ :: rss, w₁, rfl, rfl, .next hs hbefore, hstep⟩

variable (c) in
theorem passes_or_stops (ss : List Step) (w : σ) :
    (∃ rss w', c.Passes w ss rss w') ∨ ∃ taken e w', c.Stops w ss taken e w' := by
  induction ss generalizing w with
  | nil => exact .inl ⟨[], w, .done w⟩
  | cons s ss ih =>
    obtain ⟨result, w', hs⟩ := exists_takes c s w
    cases result with
    | error e => exact .inr ⟨[s], e, w', .here hs⟩
    | ok rs =>
      rcases ih w' with ⟨rss, w'', hss⟩ | ⟨taken, e, w'', hss⟩
      · exact .inl ⟨rs :: rss, w'', .next hs hss⟩
      · exact .inr ⟨s :: taken, e, w'', .later hs hss⟩

theorem Passes.not_stops (h : c.Passes w ss rss w') : ¬ c.Stops w ss taken e w'' := by
  induction h generalizing taken with
  | done w => nofun
  | next hs _ ih =>
    intro hstops
    cases hstops with
    | here hs' => cases (hs.of_passed hs').1
    | later hs' rest =>
      obtain ⟨-, rfl⟩ := hs.of_passed hs'
      exact ih rest

/-! ## Parts of the transaction -/

theorem Passes.commands {sqls : List String} (h : c.Passes w (sqls.map .command) rss w') :
    (c.sendAll sqls).Gives w (.ok ()) w' := by
  have hanswers := h.answers
  rw [List.map_map] at hanswers
  exact gives_sendAll hanswers

theorem Stops.commands {sqls : List String} (h : c.Stops w (sqls.map .command) taken e w') :
    (c.sendAll sqls).Gives w (.error e) w' := by
  induction sqls generalizing w taken with
  | nil => cases h
  | cons sql sqls ih =>
    cases h with
    | here hs =>
      cases hs with
      | refused h => exact (gives_send h).bind (.pure _ _)
      | unreadable h hrs => exact hrs.elim
    | later hs hrest =>
      cases hs with
      | passed h hrs => exact (gives_send h).bind (ih hrest)

theorem Passes.queries {p : Plan} (h : c.Passes w (c.queries p) rss w') :
    ∃ (data filtered total : ResultSet) (page : PageRows), rss = [data, filtered, total] ∧
      page.ReadFrom p data filtered total := by
  cases h with
  | next hdata h =>
    cases h with
    | next hfiltered h =>
      cases h with
      | next htotal h =>
        cases h
        obtain ⟨rows, hrows⟩ :=
          ((ResultSet.checks_decodeRows c.mismatch p.selected).ok_iff _).2 hdata.sound
        obtain ⟨m, hm⟩ := hfiltered.sound
        obtain ⟨n, hn⟩ := htotal.sound
        exact ⟨_, _, _, ⟨rows, m, n⟩, rfl, ResultSet.decodeRows_eq_ok_iff.1 hrows, hm, hn⟩

theorem gives_decoding {α : Type} {st : Statement} (h : c.execute st w = (.ok rs, w'))
    (decode : ResultSet → Except DatabaseError α) :
    Action.Gives (do return (← c.send st).bind decode) w (decode rs) w' :=
  (gives_send h).bind (.pure ((Except.ok rs).bind decode) w')

/-- A query whose result is decoded as the step says gives what is decoded, -/
theorem Takes.gives_ok {α : Type} {decode : ResultSet → Except DatabaseError α}
    (hchecks : Checks decode s.Sound s.Faulty) (h : c.Takes s w w' (.ok rs)) :
    ∃ v, Action.Gives (do return (← c.send s.statement).bind decode) w (.ok v) w' := by
  cases h with
  | passed h hrs =>
    obtain ⟨v, hv⟩ := (hchecks.ok_iff rs).2 hrs
    have hgives := gives_decoding h decode
    rw [hv] at hgives
    exact ⟨v, hgives⟩

/-- and one that fails gives the failure. -/
theorem Takes.gives_error {α : Type} {decode : ResultSet → Except DatabaseError α}
    (hchecks : Checks decode s.Sound s.Faulty) (h : c.Takes s w w' (.error e)) :
    Action.Gives (do return (← c.send s.statement).bind decode) w (.error e) w' := by
  cases h with
  | refused h => exact (gives_send h).bind (.pure ((Except.error e).bind decode) w')
  | @unreadable rs _ h hrs =>
    have hgives := gives_decoding h decode
    rwa [(hchecks.error_iff rs e).2 hrs] at hgives

/-- The queries end with the first failure, of a statement or of the reading of its result. -/
theorem Stops.queries {p : Plan} (h : c.Stops w (c.queries p) taken e w') :
    (Backend.pageInSequence c.fetchRows c.fetchCount p).Gives w (.error e) w' := by
  have hrows := ResultSet.checks_decodeRows c.mismatch p.selected
  have hcount := ResultSet.checks_decodeCount c.mismatch
  -- A failure of a statement ends the queries there; each one before it gave rows or a count.
  cases h with
  | here hdata =>
    have hfails := hdata.gives_error hrows
    exact Action.Gives.bind (a := c.fetchRows p.data p.selected) hfails (.pure _ _)
  | later hdata h =>
    obtain ⟨rows, hread⟩ := hdata.gives_ok hrows
    refine Action.Gives.bind (a := c.fetchRows p.data p.selected) hread ?_
    cases h with
    | here hfiltered =>
      have hfails := hfiltered.gives_error hcount
      exact Action.Gives.bind (a := c.fetchCount p.filteredCount) hfails (.pure _ _)
    | later hfiltered h =>
      obtain ⟨m, hread⟩ := hfiltered.gives_ok hcount
      refine Action.Gives.bind (a := c.fetchCount p.filteredCount) hread ?_
      cases h with
      | here htotal =>
        have hfails := htotal.gives_error hcount
        exact Action.Gives.bind (a := c.fetchCount p.totalCount) hfails (.pure _ _)
      | later _ h => cases h

/-! ## The transaction -/

/-- The results of all steps end with those of the three queries and of the last statement. -/
theorem Passes.page {d : Dialect} {p : Plan} (h : c.Passes w (c.steps d p) rss w') :
    ∃ (opened : List ResultSet) (data filtered total closed : ResultSet) (page : PageRows),
      rss = opened ++ [data, filtered, total, closed] ∧ page.ReadFrom p data filtered total := by
  obtain ⟨opened, rest, w₁, rfl, -, h⟩ := h.split
  obtain ⟨results, ending, w₂, rfl, hqueries, hcommit⟩ := h.split
  obtain ⟨data, filtered, total, page, rfl, hpage⟩ := hqueries.queries
  cases hcommit with
  | next _ hdone =>
    cases hdone
    exact ⟨opened, data, filtered, total, _, page, rfl, hpage⟩

/-- Whichever part of the transaction stops, its failure is that of the transaction. -/
theorem Stops.transaction {d : Dialect} {p : Plan} (h : c.Stops w (c.steps d p) taken e w') :
    (c.transaction d p).Gives w (.error e) w' := by
  rcases h.split with hopening | ⟨_, w₁, _, hopening, h⟩
  · exact hopening.commands.bind (.pure _ _)
  rcases h.split with hqueries | ⟨_, w₂, _, hqueries, hcommit⟩
  · exact hopening.commands.bind (hqueries.queries.bind (.pure _ _))
  · obtain ⟨data, filtered, total, page, rfl, hpage⟩ := hqueries.queries
    obtain ⟨hrows, hfiltered, htotal⟩ := hpage.decoded c.mismatch
    have hread := gives_pageInSequence hqueries.answers hrows hfiltered htotal
    exact hopening.commands.bind (hread.bind (hcommit.commands.bind (.pure _ _)))

theorem fetchPage_of_passes {d : Dialect} {p : Plan} {opened : List ResultSet}
    {data filtered total closed : ResultSet} {page : PageRows}
    (h : c.Passes w (c.steps d p) (opened ++ [data, filtered, total, closed]) w')
    (hpage : page.ReadFrom p data filtered total) (time : Option Nat) :
    ((c.backend d).fetchPage p).runFor time w = (some (.ok page), w') := by
  obtain ⟨hrows, hfiltered, htotal⟩ := hpage.decoded c.mismatch
  exact fetchPage_of_answers (statements_steps c d p ▸ h.answers) hrows hfiltered htotal time

theorem fetchPage_of_stops {d : Dialect} {p : Plan} (h : c.Stops w (c.steps d p) taken e w')
    (time : Option Nat) : ((c.backend d).fetchPage p).runFor time w =
      (some (.error (Backend.executionFailure d p e)), w') :=
  (h.transaction.bind
    (.pure ((Except.error e).mapError (Backend.executionFailure d p)) w')).runFor time

/-- Read apart, the same results make the same page. -/
theorem pageApart_of_answers {d : Dialect} {p : Plan} {data filtered total : ResultSet}
    {page : PageRows}
    (h : c.Answers w [p.data, p.filteredCount, p.totalCount] [data, filtered, total] w')
    (hpage : page.ReadFrom p data filtered total) (time : Option Nat) :
    ((c.backend d).pageApart p).runFor time w = (some (.ok page), w') := by
  obtain ⟨hrows, hfiltered, htotal⟩ := hpage.decoded c.mismatch
  have hread := gives_pageInSequence h hrows hfiltered htotal
  exact (hread.bind
    (.pure ((Except.ok page).mapError (Backend.executionFailure d p)) w')).runFor time

/-! ## The statements that are sent -/

/-- The connection with a note of every statement that is sent. -/
def noting (c : Connection σ) : Connection (σ × List Statement) where
  execute st w := ((c.execute st w.1).1, (c.execute st w.1).2, w.2 ++ [st])
  mismatch := c.mismatch

theorem Takes.noting (h : c.Takes s w w' result) (sent : List Statement) :
    c.noting.Takes s (w, sent) (w', sent ++ [s.statement]) result := by
  have hnoting {answer : Except DatabaseError ResultSet}
      (h : c.execute s.statement w = (answer, w')) :
      c.noting.execute s.statement (w, sent) = (answer, w', sent ++ [s.statement]) := by
    show ((c.execute s.statement w).1, (c.execute s.statement w).2, sent ++ [s.statement]) = _
    rw [h]
  cases h with
  | refused h => exact .refused (hnoting h)
  | unreadable h hrs => exact .unreadable (hnoting h) hrs
  | passed h hrs => exact .passed (hnoting h) hrs

theorem Passes.noting (h : c.Passes w ss rss w') (sent : List Statement) :
    c.noting.Passes (w, sent) ss rss (w', sent ++ ss.map (·.statement)) := by
  induction h generalizing sent with
  | done w =>
    rw [List.map_nil, List.append_nil]
    exact .done _
  | @next _ _ _ s _ _ _ hs _ ih =>
    rw [List.map_cons, List.append_cons]
    exact .next (hs.noting sent) (ih (sent ++ [s.statement]))

theorem Stops.noting (h : c.Stops w ss taken e w') (sent : List Statement) :
    c.noting.Stops (w, sent) ss taken e (w', sent ++ taken.map (·.statement)) := by
  induction h generalizing sent with
  | here hs => exact .here (hs.noting sent)
  | @later _ _ _ s _ _ _ _ hs _ ih =>
    rw [List.map_cons, List.append_cons]
    exact .later (hs.noting sent) (ih (sent ++ [s.statement]))

end

/-- What was sent to read a page, beside what came of it. -/
structure Transcript (c : Connection σ) (d : Dialect) (p : Plan) (w : σ)
    (result : Except ExecutionFailure PageRows) (sent : List Statement) (w' : σ) : Prop where
  ordered : sent <+: script d p
  read_iff : (∃ page, result = .ok page) ↔ ∃ rss w'', c.Passes w (c.steps d p) rss w''
  /-- The first step that fails is the last one, and its failure is the answer. -/
  stopped : ∀ failure, result = .error failure → ∃ before step after rss w₁ e,
    c.steps d p = before ++ step :: after ∧ c.Passes w before rss w₁ ∧
      c.Takes step w₁ w' (.error e) ∧ sent = (before ++ [step]).map (·.statement) ∧
      failure = ⟨d, p.table, e⟩
  /-- The page is read from the results of its own statements, and so it is where they are
  answered the same without a transaction. -/
  read : ∀ page, result = .ok page → sent = script d p ∧ ∃ opened data filtered total closed,
    c.Answers w (script d p) (opened ++ [data, filtered, total, closed]) w' ∧
      page.ReadFrom p data filtered total ∧
      ∀ {τ : Type} (c' : Connection τ) (v v' : τ) (time : Option Nat),
        c'.Answers v [p.data, p.filteredCount, p.totalCount] [data, filtered, total] v' →
          ((c'.backend d).pageApart p).runFor time v = (some (.ok page), v')

theorem Passes.transcript {c : Connection σ} {d : Dialect} {p : Plan} {w w' : σ}
    {opened : List ResultSet} {data filtered total closed : ResultSet} {page : PageRows}
    (h : c.Passes w (c.steps d p) (opened ++ [data, filtered, total, closed]) w')
    (hpage : page.ReadFrom p data filtered total) :
    c.Transcript d p w (.ok page) (script d p) w' where
  ordered := List.prefix_rfl
  read_iff := ⟨fun _ => ⟨_, w', h⟩, fun _ => ⟨page, rfl⟩⟩
  stopped := nofun
  read := by
    rintro _ ⟨⟩
    exact ⟨rfl, opened, data, filtered, total, closed, statements_steps c d p ▸ h.answers, hpage,
      fun _ _ _ time h' => pageApart_of_answers h' hpage time⟩

theorem Stops.transcript {c : Connection σ} {d : Dialect} {p : Plan} {w w' : σ}
    {taken : List Step} {e : DatabaseError} (h : c.Stops w (c.steps d p) taken e w') :
    c.Transcript d p w (.error (Backend.executionFailure d p e)) (taken.map (·.statement)) w' := by
  obtain ⟨before, step, after, rss, w₁, hsteps, rfl, hbefore, hstep⟩ := h.last
  refine ⟨?_, ⟨nofun, ?_⟩, ?_, nofun⟩
  · rw [← statements_steps c d p, hsteps, List.append_cons before step after]
    exact (List.prefix_append (before ++ [step]) after).map _
  · rintro ⟨rss', w'', hpasses⟩
    exact absurd h hpasses.not_stops
  · rintro _ ⟨⟩
    exact ⟨before, step, after, rss, w₁, e, hsteps, hbefore, hstep, rfl, rfl⟩

/-- **The statements of a page are sent in their order up to the first step that fails.** -/
theorem fetchPage_transcript (c : Connection σ) (d : Dialect) (p : Plan) (time : Option Nat)
    (w : σ) : ∃ result sent w', ((c.backend d).fetchPage p).runFor time w = (some result, w') ∧
      ((c.noting.backend d).fetchPage p).runFor time (w, []) = (some result, w', sent) ∧
      c.Transcript d p w result sent w' := by
  rcases c.passes_or_stops (c.steps d p) w with ⟨rss, w', h⟩ | ⟨taken, e, w', h⟩
  · obtain ⟨opened, data, filtered, total, closed, page, rfl, hpage⟩ := h.page
    have hnoted := fetchPage_of_passes (h.noting []) hpage time
    rw [List.nil_append, statements_steps] at hnoted
    exact ⟨_, _, w', fetchPage_of_passes h hpage time, hnoted, h.transcript hpage⟩
  · have hnoted := fetchPage_of_stops (h.noting []) time
    rw [List.nil_append] at hnoted
    exact ⟨_, _, w', fetchPage_of_stops h time, hnoted, h.transcript⟩

/-- A connection that gives recorded answers, one after the other. -/
def recorded : Connection (List (Except DatabaseError ResultSet)) where
  execute _
    | [] => (.error .noRow, [])
    | answer :: rest => (answer, rest)
  mismatch _ _ := "mismatched types"

def searchedPlan : Plan where
  table := "t"
  selected := [⟨"a", .text⟩]
  data := ⟨"SELECT \"a\"::text AS \"a\" FROM \"t\" WHERE \"a\" ILIKE $1 LIMIT $2 OFFSET $3",
    [.text "%x%", .int 10, .int 0]⟩
  filteredCount := ⟨"SELECT COUNT(*) FROM \"t\" WHERE \"a\" ILIKE $1", [.text "%x%"]⟩
  totalCount := ⟨"SELECT COUNT(*) FROM \"t\"", []⟩

/-- The second row of the page has an integer where text is wanted. -/
def mistypedRow : List (Except DatabaseError ResultSet) :=
  [.ok ⟨[]⟩, .ok ⟨[]⟩, .ok ⟨[[.null], [.int 7], [.text "x"]]⟩, .ok (.count 1), .ok (.count 3),
    .ok ⟨[]⟩]

/-- No count is asked for behind a row that cannot be read. -/
theorem fetchPage_transcript_mistyped : ∃ sent w',
    ((recorded.backend .postgres).fetchPage searchedPlan).runFor none mistypedRow =
        (some (.error ⟨.postgres, "t", .undecoded "0" "mismatched types"⟩), w') ∧
      recorded.Transcript .postgres searchedPlan mistypedRow
        (.error ⟨.postgres, "t", .undecoded "0" "mismatched types"⟩) sent w' ∧
      sent = (opening .postgres).map plain ++ [searchedPlan.data] := by
  obtain ⟨result, sent, w', hrun, hnoted, htranscript⟩ :=
    fetchPage_transcript recorded .postgres searchedPlan none mistypedRow
  have hsent : (((recorded.noting.backend .postgres).fetchPage searchedPlan).runFor none
      (mistypedRow, [])).2.2 = (opening .postgres).map plain ++ [searchedPlan.data] := by
    decide +kernel
  have hresult : (((recorded.backend .postgres).fetchPage searchedPlan).runFor none
      mistypedRow).1 = some (.error ⟨.postgres, "t", .undecoded "0" "mismatched types"⟩) := rfl
  rw [hrun] at hresult
  rw [hnoted] at hsent
  obtain rfl := Option.some.inj hresult
  exact ⟨sent, w', hrun, htranscript, hsent⟩

end Connection

end GridQuery
