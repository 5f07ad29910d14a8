import GridQuery.Plan.Filter
import GridQuery.Proofs.Plan.Phrase
import GridQuery.Proofs.Sql.Group

/-!
# Columns that are not to be searched

A column is not to be searched when it is not searchable or when any entry of the client forbids
it. A global search looks at all entries for a column and keeps to this. The search of one column
looks at the entry at hand only, so it does not: an entry that allows the search is searched even
beside one that forbids it, and leaves no diagnostic of its own. Where the entries for a column
agree there is no difference.

Main result: `Search.staysOut_iff`, when exactly a column stays out of the filter.
-/

namespace GridQuery

open Sql

/-! ## Looking up columns -/

/-- Among distinct names a column is found under its own. -/
theorem Column.find?_of_mem {columns : List Column} (h : (columns.map (·.exposed)).Nodup)
    {c : Column} (hc : c ∈ columns) : find? columns c.exposed = some c := by
  unfold find?
  induction columns with
  | nil => simp at hc
  | cons x columns ih =>
    obtain ⟨hx, hnodup⟩ := List.nodup_cons.1 h
    rcases List.mem_cons.1 hc with rfl | hc
    · simp
    · have hne : x.exposed ≠ c.exposed := by
        intro heq
        exact hx (List.mem_map.2 ⟨c, hc, heq.symm⟩)
      rw [List.find?_cons_of_neg (by simpa using hne)]
      exact ih hnodup hc

theorem Column.exposed_of_find? {columns : List Column} {n : String} {c : Column}
    (h : find? columns n = some c) : c.exposed = n := by
  simpa using List.find?_some h

/-! ## Counting tests -/

/-- A conjunction has as many values as it has tests. -/
theorem Contribution.values_all (d : Dialect) (cs : List Contribution) :
    ((Predicate.all (predicates d cs)).elim 0 fun p => p.values.length) =
      (cs.filterMap test?).length := by
  have hplaces : ∀ t : String × TermTest, places (t.2.phrase d t.1) = 1 := by
    rintro ⟨source, t⟩
    cases d <;> cases t <;> rfl
  have hsum : places (phrases d cs).flatten = (cs.filterMap test?).length := by
    rw [phrases]
    induction cs.filterMap test? with
    | nil => rfl
    | cons t ts ih =>
      rw [List.map_cons, List.flatten_cons, places_append, ih, hplaces, List.length_cons,
        Nat.add_comm]
  -- The values are counted on the tokens that the conjunction reads as: one place for each test.
  have hreads := Predicate.reads_all (reads_predicates d cs)
  rw [← hsum]
  generalize Predicate.all (predicates d cs) = q at hreads
  cases hphs : phrases d cs with
  | nil =>
    rw [hphs] at hreads
    cases hreads
    rfl
  | cons ph phs =>
    rw [hphs] at hreads
    cases hreads with
    | some hp => exact hp.values.trans (places_enclosed "AND" (ph :: phs))

/-- A filter that leaves no result out leaves out members without a result only. -/
theorem filterMap_filter_eq_none {α β : Type} {g : α → Option β} {q : α → Bool} {xs : List α}
    (h : (xs.filterMap g).length = ((xs.filter q).filterMap g).length) :
    ∀ x ∈ xs, q x = false → g x = none := by
  have hsplit := List.countP_eq_countP_filter_add xs (fun x => (g x).isSome) q
  rw [List.length_filterMap_eq_countP, List.length_filterMap_eq_countP] at h
  have hzero : (xs.filter (!q ·)).countP (fun x => (g x).isSome) = 0 := by omega
  intro x hx hq
  have hleft : x ∈ xs.filter (!q ·) := List.mem_filter.2 ⟨hx, by simp [hq]⟩
  simpa using List.countP_eq_zero.1 hzero x hleft

/-! ## One entry -/

/-- The table has the column's source, and the term denotes a test of its category. -/
def Column.Accepts (schema : Schema) (c : Column) (f : ColumnSearch) : Prop :=
  ∃ live t, schema.find? c.source = some live ∧ TermTest.read live.category f.term f.regex = .ok t

namespace Search

variable {columns : List Column} {schema : Schema} {c : Column} {f : ColumnSearch} {s : Search}

/-- An entry that is allowed on a searchable column contributes a test when it is accepted, and
never the finding that the column is not searchable. -/
theorem ofEntry_open (hc : Column.find? columns f.exposed = some c) (hf : f.term.isEmpty = false)
    (hallowed : f.allowed = true) (hsearchable : c.searchable = true) :
    ((ofEntry columns schema f).test? = none ↔ ¬ c.Accepts schema f) ∧
      ∀ n, (ofEntry columns schema f).finding? ≠ some ⟨n, .notSearchable⟩ := by
  simp only [ofEntry, hf, hc, hallowed, hsearchable, Column.Accepts]
  cases hlive : schema.find? c.source with
  | none => simp [Contribution.test?, Contribution.finding?]
  | some live =>
    cases hread : TermTest.read live.category f.term f.regex with
    | ok t => simp [hread, Contribution.test?, Contribution.finding?]
    | error skip =>
      cases skip <;> simp [hread, Contribution.test?, Contribution.finding?, unreadable]

/-- Any other entry with a term contributes that finding. -/
theorem ofEntry_shut (hc : Column.find? columns f.exposed = some c) (hf : f.term.isEmpty = false)
    (h : f.allowed = false ∨ c.searchable = false) :
    ofEntry columns schema f = .finding ⟨c.exposed, .notSearchable⟩ := by
  rcases h with h | h <;> simp [ofEntry, hf, hc, h]

theorem ofEntry_blank (hf : f.term.isEmpty = true) : ofEntry columns schema f = .nothing := by
  simp [ofEntry, hf]

theorem ofEntry_unknown (hc : Column.find? columns f.exposed = none)
    (hf : f.term.isEmpty = false) :
    ofEntry columns schema f = .finding ⟨f.exposed, .unknownColumn⟩ := by
  simp [ofEntry, hf, hc]

theorem test?_ofEntry (hc : Column.find? columns f.exposed = some c) :
    (ofEntry columns schema f).test? = none ↔
      (f.term.isEmpty = false → f.allowed = true → c.searchable = true → ¬ c.Accepts schema f) := by
  cases hf : f.term.isEmpty with
  | true => simp [ofEntry_blank hf, Contribution.test?]
  | false =>
    by_cases h : f.allowed = false ∨ c.searchable = false
    · rw [ofEntry_shut hc hf h]
      rcases h with h | h <;> simp [Contribution.test?, h]
    · rw [not_or, Bool.not_eq_false, Bool.not_eq_false] at h
      rw [(ofEntry_open hc hf h.1 h.2).1]
      simp [h]

theorem finding?_ofEntry {n : String} :
    (ofEntry columns schema f).finding? = some ⟨n, .notSearchable⟩ ↔
      f.term.isEmpty = false ∧ f.exposed = n ∧
        ∃ c, Column.find? columns n = some c ∧ (f.allowed = false ∨ c.searchable = false) := by
  cases hf : f.term.isEmpty with
  | true => simp [ofEntry_blank hf, Contribution.finding?]
  | false =>
    cases hc : Column.find? columns f.exposed with
    | none =>
      rw [ofEntry_unknown hc hf]
      simp only [Contribution.finding?, Option.some.injEq, Diagnostic.mk.injEq, reduceCtorEq,
        and_false, true_and, false_iff, not_and, not_exists]
      rintro rfl c hfound
      rw [hc] at hfound
      cases hfound
    | some c =>
      have hname := Column.exposed_of_find? hc
      -- The column is known: it may be shut to the search, by itself or by the entry, or open.
      by_cases h : f.allowed = false ∨ c.searchable = false
      · rw [ofEntry_shut hc hf h]
        simp only [Contribution.finding?, Option.some.injEq, Diagnostic.mk.injEq, and_true,
          true_and]
        constructor
        · rintro rfl
          exact ⟨hname.symm, c, hname ▸ hc, h⟩
        · rintro ⟨rfl, -⟩
          exact hname
      · have hopen := h
        rw [not_or, Bool.not_eq_false, Bool.not_eq_false] at hopen
        refine ⟨fun heq => absurd heq ((ofEntry_open hc hf hopen.1 hopen.2).2 n), ?_⟩
        rintro ⟨-, rfl, c', hc', hshut⟩
        rw [hc] at hc'
        cases hc'
        exact absurd hshut h

/-! ## The halves of the filter -/

/-- The conjunction is that of the other entries exactly when the entries for the name contribute
no test. -/
theorem individual_eq_iff (d : Dialect) (columns : List Column) (schema : Schema) (s : Search)
    (n : String) :
    (Filter.ofSearch d columns schema s).individual =
        Predicate.all (Contribution.predicates d
          ((s.perColumn.filter (·.exposed != n)).map (ofEntry columns schema))) ↔
      ∀ f ∈ s.perColumn, f.exposed = n → (ofEntry columns schema f).test? = none := by
  show Predicate.all (Contribution.predicates d (s.perColumn.map (ofEntry columns schema))) = _ ↔ _
  constructor
  · intro h f hf hn
    -- Equal conjunctions hold equally many values, so the entries left out hold none.
    have hvalues := congrArg (fun q : Option Predicate => q.elim 0 fun p => p.values.length) h
    rw [Contribution.values_all, Contribution.values_all, List.filterMap_map,
      List.filterMap_map] at hvalues
    exact filterMap_filter_eq_none hvalues f hf (by simp [hn])
  · intro h
    have hrest : s.perColumn.filterMap (Contribution.test? ∘ ofEntry columns schema) =
        (s.perColumn.filter (·.exposed != n)).filterMap
          (Contribution.test? ∘ ofEntry columns schema) := by
      rw [List.filterMap_filter]
      refine List.filterMap_congr fun f hf => ?_
      by_cases hn : f.exposed = n
      · simpa [hn] using h f hf hn
      · simp [hn]
    rw [Contribution.predicates, Contribution.predicates, List.filterMap_map, List.filterMap_map,
      hrest]

/-- A global search passes over a column that is not to be searched. -/
theorem global_without {n : String}
    (h : ∀ c ∈ columns, c.exposed = n → s.allows n = false ∨ c.searchable = false) :
    s.global columns schema = s.global (columns.filter (·.exposed != n)) schema := by
  have hsearched : s.searchedColumns columns =
      s.searchedColumns (columns.filter (·.exposed != n)) := by
    rw [searchedColumns, searchedColumns, List.filter_filter]
    refine List.filter_congr fun c hc => ?_
    by_cases hn : c.exposed = n
    · rcases h c hc hn with hshut | hshut <;> simp [hn, hshut]
    · simp [hn]
  rw [global, global, hsearched]

/-! ## Findings -/

/-- A column reports an unreadable term of a global search and nothing else. -/
theorem unreadable_of_ofGlobal {g : GlobalSearch} {c : Column} {d : Diagnostic}
    (h : (ofGlobal schema g c).finding? = some d) : ∃ live, d = unreadable c live g.term := by
  unfold ofGlobal at h
  cases hlive : schema.find? c.source with
  | none => simp [hlive, Contribution.finding?] at h
  | some live =>
    refine ⟨live, ?_⟩
    cases hread : TermTest.read live.category g.term g.regex with
    | ok t => simp [hlive, hread, Contribution.finding?] at h
    | error skip =>
      cases skip <;> simp [hlive, hread, Contribution.finding?] at h
      exact h.symm

/-- And so does the global search as a whole. -/
theorem unreadable_of_global {d : Diagnostic}
    (h : d ∈ Contribution.findings (s.global columns schema)) :
    ∃ c live term, d = unreadable c live term := by
  obtain ⟨x, hx, hfinding⟩ := List.mem_filterMap.1 h
  unfold global at hx
  cases hoverall : s.overall with
  | none => simp [hoverall] at hx
  | some g =>
    simp only [hoverall] at hx
    split at hx
    · simp at hx
    · obtain ⟨c, -, rfl⟩ := List.mem_map.1 hx
      obtain ⟨live, hd⟩ := unreadable_of_ofGlobal hfinding
      exact ⟨c, live, g.term, hd⟩

/-- The finding is left by the entries for the column alone. -/
theorem notSearchable_mem_iff {n : String} (hc : Column.find? columns n = some c) :
    ⟨n, .notSearchable⟩ ∈ (Diagnostics.collect (Filter.findings columns schema s)).entries ↔
      ∃ f ∈ s.perColumn, f.exposed = n ∧ f.term.isEmpty = false ∧
        (f.allowed = false ∨ c.searchable = false) := by
  have hglobal : ⟨n, .notSearchable⟩ ∉ Contribution.findings (s.global columns schema) := by
    intro hmem
    obtain ⟨c', live, term, hd⟩ := unreadable_of_global hmem
    cases hd
  rw [Diagnostics.mem_collect, Filter.findings, List.mem_append, or_iff_left hglobal]
  simp only [Contribution.findings, individual, List.filterMap_map, List.mem_filterMap,
    Function.comp, finding?_ofEntry, hc, Option.some.injEq, exists_eq_left']
  constructor
  · rintro ⟨f, hf, hterm, hn, hshut⟩
    exact ⟨f, hf, hn, hterm, hshut⟩
  · rintro ⟨f, hf, hn, hterm, hshut⟩
    exact ⟨f, hf, hterm, hn, hshut⟩

/-! ## Staying out -/

/-- No half of the filter has a predicate for the exposed name, and if there is a term for it, that
the column is not searchable is among the findings. -/
structure StaysOut (d : Dialect) (columns : List Column) (schema : Schema) (s : Search)
    (n : String) : Prop where
  individual : (Filter.ofSearch d columns schema s).individual =
    Predicate.all (Contribution.predicates d
      ((s.perColumn.filter (·.exposed != n)).map (ofEntry columns schema)))
  global : (Filter.ofSearch d columns schema s).global =
    Predicate.any (Contribution.predicates d
      (s.global (columns.filter (·.exposed != n)) schema))
  findings : ∀ f ∈ s.perColumn, f.exposed = n → f.term.isEmpty = false →
    ⟨n, .notSearchable⟩ ∈ (Diagnostics.collect (Filter.findings columns schema s)).entries

/-- **A column that is not to be searched stays out of the filter unless an entry that forbids it
stands beside entries that allow it:** on a searchable column no term of an allowed entry may be
accepted, and if there is a term at all, there must be one of a forbidding entry. -/
theorem staysOut_iff (d : Dialect) (schema : Schema) (s : Search)
    (hnodup : (columns.map (·.exposed)).Nodup) (hc : c ∈ columns)
    (hdisabled : s.allows c.exposed = false ∨ c.searchable = false) :
    StaysOut d columns schema s c.exposed ↔
      (c.searchable = true →
        (∀ f ∈ s.perColumn, f.exposed = c.exposed → f.term.isEmpty = false → f.allowed = true →
          ¬ c.Accepts schema f) ∧
        ((∃ f ∈ s.perColumn, f.exposed = c.exposed ∧ f.term.isEmpty = false) →
          ∃ f ∈ s.perColumn, f.exposed = c.exposed ∧ f.term.isEmpty = false ∧
            f.allowed = false)) := by
  have hfind := Column.find?_of_mem hnodup hc
  have htest : ∀ f ∈ s.perColumn, f.exposed = c.exposed →
      ((ofEntry columns schema f).test? = none ↔ (f.term.isEmpty = false → f.allowed = true →
        c.searchable = true → ¬ c.Accepts schema f)) := by
    intro f _ hn
    exact test?_ofEntry (hn ▸ hfind)
  constructor
  · rintro ⟨hindividual, -, hfindings⟩ hsearchable
    rw [individual_eq_iff] at hindividual
    refine ⟨fun f hf hn hterm hallowed => ?_, ?_⟩
    · exact (htest f hf hn).1 (hindividual f hf hn) hterm hallowed hsearchable
    · rintro ⟨f, hf, hn, hterm⟩
      obtain ⟨f', hf', hn', hterm', hshut⟩ :=
        (notSearchable_mem_iff hfind).1 (hfindings f hf hn hterm)
      exact ⟨f', hf', hn', hterm', hshut.resolve_right (by simp [hsearchable])⟩
  · intro h
    refine ⟨?_, ?_, ?_⟩
    · rw [individual_eq_iff]
      intro f hf hn
      rw [htest f hf hn]
      intro hterm hallowed hsearchable
      exact (h hsearchable).1 f hf hn hterm hallowed
    -- A global search asks no column of this name, since the name is that of `c` alone.
    · have hsame : ∀ c' ∈ columns, c'.exposed = c.exposed →
          s.allows c.exposed = false ∨ c'.searchable = false := by
        intro c' hc' hn
        have hfind' := Column.find?_of_mem hnodup hc'
        rw [hn, hfind] at hfind'
        cases hfind'
        exact hdisabled
      show Predicate.any (Contribution.predicates d (s.global columns schema)) = _
      rw [global_without hsame]
    · intro f hf hn hterm
      -- A column that is not searchable reports every term, a searchable one only those forbidden.
      rw [notSearchable_mem_iff hfind]
      cases hsearchable : c.searchable with
      | false => exact ⟨f, hf, hn, hterm, .inr rfl⟩
      | true =>
        obtain ⟨f', hf', hn', hterm', hforbids⟩ := (h hsearchable).2 ⟨f, hf, hn, hterm⟩
        exact ⟨f', hf', hn', hterm', .inl hforbids⟩

/-- One searchable column. -/
def single : Column := ⟨"a", "a", true, true, none⟩

theorem staysOut_single :
    StaysOut .postgres [single] [⟨"a", "text", .text⟩] ⟨[⟨"a", "x", false, false⟩], none⟩ "a" := by
  have hallows : allows ⟨[⟨"a", "x", false, false⟩], none⟩ single.exposed = false := by decide
  refine (staysOut_iff .postgres [⟨"a", "text", .text⟩] _ (by decide) List.mem_cons_self
    (.inl hallows)).2 fun _ => ⟨?_, ?_⟩
  · simp
  · exact fun _ => ⟨_, List.mem_cons_self, rfl, by decide, rfl⟩

/-- An entry that allows the search beside one that forbids it. -/
def mixed : Search := ⟨[⟨"a", "x", false, true⟩, ⟨"a", "", false, false⟩], none⟩

/-- Beside the entry that forbids it, the column is searched all the same. -/
theorem mixed_not_staysOut :
    ([single].map (·.exposed)).Nodup ∧ mixed.allows single.exposed = false ∧
      ¬ StaysOut .postgres [single] [⟨"a", "text", .text⟩] mixed single.exposed := by
  refine ⟨by decide, by decide, fun h => ?_⟩
  exact absurd h.individual (by decide)

end Search

end GridQuery
