import GridQuery.Backend.Memory
import GridQuery.Proofs.Engine.Records
import GridQuery.Proofs.Plan.Findings
import GridQuery.Widget.Query

/-!
# What becomes of a search term

A term that the widget sends for a column is compared with its absence: the same body without this
one term. The parts of the request that do not come from the term are the same on both sides, so
the term stands for the one test, or the one report, by which the two sides differ.

A column without a name has no entry in the search, so its term makes no difference at all, and it
is not reported, although an order item that points at the same column is.

Main result: `Service.term_traced_iff`.
-/

namespace GridQuery

namespace Widget

/-! ## The body without a term -/

/-- The column without its term. -/
def BodyColumn.withoutTerm (c : BodyColumn) : BodyColumn :=
  { c with search := { c.search with value := none } }

/-- The body without the term of the column at a place. -/
def Body.withoutTerm (b : Body) (i : Nat) : Body :=
  { b with columns := b.columns.modify i BodyColumn.withoutTerm }

/-- The search entries that a column makes: one if it has a name, and none otherwise. -/
def BodyColumn.asked (c : BodyColumn) : List ColumnSearch := c.entry?.toList

theorem BodyColumn.asked_of_exposed {c : BodyColumn} {n : String} (h : c.exposed? = some n) :
    c.asked = [⟨n, c.search.value.getD "", c.search.regex.getD false, c.searchable.getD true⟩] := by
  unfold asked entry?
  rw [h]
  rfl

theorem BodyColumn.asked_of_nameless {c : BodyColumn} (h : c.exposed? = none) : c.asked = [] := by
  unfold asked entry?
  rw [h]
  rfl

theorem BodyColumn.asked_withoutTerm (c : BodyColumn) :
    c.withoutTerm.asked = c.asked.map fun f => { f with term := "" } := by
  have hsame : c.withoutTerm.exposed? = c.exposed? := rfl
  cases hname : c.exposed? with
  | none => rw [asked_of_nameless hname, asked_of_nameless (hsame.trans hname), List.map_nil]
  | some n =>
    rw [asked_of_exposed hname, asked_of_exposed (hsame.trans hname)]
    rfl

namespace Body

variable {b : Body} {i : Nat} {c : BodyColumn}

theorem columns_split (h : b.columns[i]? = some c) :
    b.columns = b.columns.take i ++ c :: b.columns.drop (i + 1) ∧
      (b.withoutTerm i).columns = b.columns.take i ++ c.withoutTerm :: b.columns.drop (i + 1) := by
  obtain ⟨hi, rfl⟩ := List.getElem?_eq_some_iff.1 h
  refine ⟨?_, List.modify_eq_take_cons_drop hi⟩
  rw [← List.drop_eq_getElem_cons hi, List.take_append_drop]

/-- The search of the body and that of the body without the term have the other entries in
common. -/
theorem perColumn_split (h : b.columns[i]? = some c) :
    ∃ before after, b.searchOf.perColumn = before ++ c.asked ++ after ∧
      (b.withoutTerm i).searchOf.perColumn =
        before ++ (c.asked.map fun f => { f with term := "" }) ++ after := by
  have hcons : ∀ (c : BodyColumn) (cs : List BodyColumn),
      (c :: cs).filterMap BodyColumn.entry? = c.asked ++ cs.filterMap BodyColumn.entry? := by
    intro c cs
    unfold BodyColumn.asked
    cases hentry : c.entry? <;> simp [hentry]
  obtain ⟨hcolumns, hwithout⟩ := columns_split h
  refine ⟨(b.columns.take i).filterMap BodyColumn.entry?,
    (b.columns.drop (i + 1)).filterMap BodyColumn.entry?, ?_, ?_⟩
  · show b.columns.filterMap BodyColumn.entry? = _
    conv_lhs => rw [hcolumns]
    rw [List.filterMap_append, hcons, List.append_assoc]
  · show (b.withoutTerm i).columns.filterMap BodyColumn.entry? = _
    rw [hwithout, List.filterMap_append, hcons, c.asked_withoutTerm, List.append_assoc]

/-- Names and what may be sorted are the same, and so is the order. -/
theorem sortKey_withoutTerm (b : Body) (i : Nat) (o : BodyOrder) :
    (b.withoutTerm i).sortKey o = b.sortKey o := by
  -- The column at a place is the same, or the same without its term.
  have hcolumn : ∀ j, (b.withoutTerm i).columnAt? j = b.columnAt? j ∨
      (b.withoutTerm i).columnAt? j = (b.columnAt? j).map BodyColumn.withoutTerm := by
    intro j
    unfold columnAt? withoutTerm
    split
    · rw [List.getElem?_modify]
      by_cases hij : i = j.toNat
      · exact .inr (by simp [hij])
      · exact .inl (by simp [hij])
    · exact .inl rfl
  unfold sortKey
  dsimp only
  rcases hcolumn (o.column.getD (-1)) with hsame | hwithout
  · rw [hsame]
  · rw [hwithout]
    cases b.columnAt? (o.column.getD (-1)) with
    | none => rfl
    | some c =>
      have hname : c.withoutTerm.exposed? = c.exposed? := rfl
      simp only [Option.map_some, Option.bind_some, hname]
      cases c.exposed? <;> rfl

theorem sortKeys_withoutTerm (b : Body) (i : Nat) : (b.withoutTerm i).sortKeys = b.sortKeys := by
  unfold sortKeys
  simp only [sortKey_withoutTerm]
  rfl

theorem findings_withoutTerm (b : Body) (i : Nat) : (b.withoutTerm i).findings = b.findings := by
  unfold findings
  simp only [sortKey_withoutTerm]
  rfl

/-! ## Tests and reports -/

/-- The tests of the terms of single columns, which must all hold. -/
def tests (b : Body) (v : View) (schema : Schema) : List (String × TermTest) :=
  (b.searchOf.individual v.columns schema).filterMap Contribution.test?

/-- What is reported, in the order in which it is found. -/
def reports (b : Body) (v : View) (m : Nat) (schema : Schema) : List Diagnostic :=
  b.findings ++ Plan.findings (b.request v m) schema

variable {v : View} {m : Nat} {schema : Schema}

/-- A term changes nothing of the global search. -/
theorem global_withoutTerm (h : b.columns[i]? = some c) :
    (b.withoutTerm i).searchOf.global v.columns schema = b.searchOf.global v.columns schema := by
  obtain ⟨before, after, hwith, hwithout⟩ := perColumn_split h
  have hallows : (b.withoutTerm i).searchOf.allows = b.searchOf.allows := by
    funext n
    have hsame : ((c.asked.map fun f => { f with term := "" }).filter (·.exposed == n)).all
        (·.allowed) = (c.asked.filter (·.exposed == n)).all (·.allowed) := by
      rw [List.filter_map, List.all_map]
      rfl
    simp only [Search.allows, hwith, hwithout, List.filter_append, List.all_append, hsame]
  have hoverall : (b.withoutTerm i).searchOf.overall = b.searchOf.overall := rfl
  unfold Search.global Search.searchedColumns
  rw [hoverall, hallows]

/-- What the entries come to is what they come to without the term, and at most one thing more. -/
theorem filterMap_split {α : Type} {g : ColumnSearch → Option α}
    (hblank : ∀ f : ColumnSearch, g { f with term := "" } = none) (h : b.columns[i]? = some c) :
    ∃ before after, (b.withoutTerm i).searchOf.perColumn.filterMap g = before ++ after ∧
      b.searchOf.perColumn.filterMap g = before ++ c.asked.filterMap g ++ after := by
  obtain ⟨before, after, hwith, hwithout⟩ := perColumn_split h
  refine ⟨before.filterMap g, after.filterMap g, ?_, ?_⟩
  · have hnone : (c.asked.map fun f => { f with term := "" }).filterMap g = [] := by
      rw [List.filterMap_map, List.filterMap_eq_nil_iff]
      exact fun f _ => hblank f
    rw [hwithout, List.filterMap_append, List.filterMap_append, hnone, List.append_nil]
  · rw [hwith, List.filterMap_append, List.filterMap_append]

variable (v schema) in
theorem tests_split (h : b.columns[i]? = some c) :
    ∃ before after, (b.withoutTerm i).tests v schema = before ++ after ∧
      b.tests v schema = before ++
        c.asked.filterMap (fun f => (Search.ofEntry v.columns schema f).test?) ++ after := by
  unfold tests Search.individual
  rw [List.filterMap_map, List.filterMap_map]
  exact filterMap_split (fun _ => rfl) h

variable (v schema) in
theorem findings_split (h : b.columns[i]? = some c) :
    ∃ before after,
      Contribution.findings ((b.withoutTerm i).searchOf.individual v.columns schema) =
        before ++ after ∧
      Contribution.findings (b.searchOf.individual v.columns schema) = before ++
        c.asked.filterMap (fun f => (Search.ofEntry v.columns schema f).finding?) ++ after := by
  unfold Contribution.findings Search.individual
  rw [List.filterMap_map, List.filterMap_map]
  exact filterMap_split (fun _ => rfl) h

/-- The reports are those without the term, and what becomes of its entry. -/
theorem count_reports (h : b.columns[i]? = some c)
    (hselect : (Plan.select v.columns schema).isEmpty = false) (d : Diagnostic) :
    (b.reports v m schema).count d = ((b.withoutTerm i).reports v m schema).count d +
      (c.asked.filterMap fun f => (Search.ofEntry v.columns schema f).finding?).count d := by
  have hplan : ∀ b : Body, Plan.findings (b.request v m) schema =
      Plan.selectFindings v.columns schema ++
        (Filter.findings v.columns schema b.searchOf ++
          Order.findings v.columns schema b.sortKeys) := by
    intro b
    show _ ++ (if (Plan.select v.columns schema).isEmpty then [] else _) = _
    rw [hselect]
    rfl
  obtain ⟨before, after, hwithout, hwith⟩ := findings_split v schema h
  simp only [reports, hplan, findings_withoutTerm, sortKeys_withoutTerm, Filter.findings,
    global_withoutTerm h, hwithout, hwith, List.count_append]
  omega

/-! ## Tracing a term -/

/-- The WHERE of a page: the tests of the terms of single columns, and others. -/
def whereWith (b : Body) (d : Dialect) (v : View) (schema : Schema) (others : List Predicate) :
    Option Predicate :=
  Predicate.conjunction
    ((Predicate.all ((b.tests v schema).map fun t => t.2.predicate d t.1)).toList ++ others)

/-- Beside the tests stand the global search and the base conditions. -/
theorem found_eq_whereWith (d : Dialect) (rs as : List Predicate) :
    Plan.found d (b.request v m) schema rs as = b.whereWith d v schema
      ((Predicate.any (Contribution.predicates d (b.searchOf.global v.columns schema))).toList ++
        (Predicate.all rs).toList ++ (Predicate.all as).toList) := by
  rw [Plan.found_eq, whereWith, List.append_assoc, List.append_assoc, List.append_assoc]
  rfl

/-- The term of the column at a place can be traced, given the diagnostics of the request. -/
inductive Traced (b : Body) (v : View) (m : Nat) (schema : Schema) (ds : Diagnostics) (i : Nat)
    (c : BodyColumn) : Prop
  /-- It is one test, on the source of the one column that it names. -/
  | test {k : Column} {live : CatalogColumn} {t : TermTest}
      {before after : List (String × TermTest)}
      (hname : c.exposed? = some k.exposed) (hk : k ∈ v.columns)
      (hunique : ∀ k' ∈ v.columns, k'.exposed = k.exposed → k' = k)
      (hlive : schema.find? k.source = some live)
      (hread : TermTest.read live.category (c.search.value.getD "") (c.search.regex.getD false) =
        .ok t)
      (hwith : b.tests v schema = before ++ (k.source, t) :: after)
      (hwithout : (b.withoutTerm i).tests v schema = before ++ after)
  /-- It is rejected, and one of the diagnostics is reported once more for it. -/
  | report {d : Diagnostic} (hd : d ∈ ds.entries)
      (hcount : (b.reports v m schema).count d = ((b.withoutTerm i).reports v m schema).count d + 1)
      (hreason : ∀ f ∈ c.asked, Search.Rejects v.columns schema f d)

/-- Without a name there is no entry, and so neither a test nor a report. -/
theorem Traced.exposed {ds : Diagnostics} (h : b.columns[i]? = some c)
    (hselect : (Plan.select v.columns schema).isEmpty = false)
    (htraced : b.Traced v m schema ds i c) : ∃ n, c.exposed? = some n := by
  cases htraced with
  | test hname => exact ⟨_, hname⟩
  | @report d _ hcount _ =>
    cases hname : c.exposed? with
    | some n => exact ⟨n, rfl⟩
    | none =>
      rw [count_reports h hselect, BodyColumn.asked_of_nameless hname] at hcount
      simp at hcount

/-- The term of a column with a name is an entry, which is a test or is rejected. -/
theorem traced_of_exposed (h : b.columns[i]? = some c)
    (hselect : (Plan.select v.columns schema).isEmpty = false)
    (hnames : (v.columns.map (·.exposed)).Nodup) {ds : Diagnostics}
    (hds : ∀ d ∈ b.reports v m schema, d ∈ ds.entries)
    (hterm : (c.search.value.getD "").isEmpty = false) {n : String} (hname : c.exposed? = some n) :
    b.Traced v m schema ds i c := by
  let f : ColumnSearch := ⟨n, c.search.value.getD "", c.search.regex.getD false,
    c.searchable.getD true⟩
  have hasked : c.asked = [f] := BodyColumn.asked_of_exposed hname
  -- The column asks one entry of the search. Either it is a test, which stands in the WHERE between
  -- those of the other columns, or its finding is counted once more than without the term.
  rcases Search.ofEntry_cases (f := f) hterm with
    ⟨k, live, t, hk, hlive, hread, htest⟩ | ⟨d, hrejects, hfinding⟩
  · obtain ⟨before, after, hwithout, hwith⟩ := tests_split v schema h
    have hone : c.asked.filterMap (fun f => (Search.ofEntry v.columns schema f).test?) =
        [(k.source, t)] := by
      rw [hasked]
      exact List.filterMap_cons_some (congrArg Contribution.test? htest)
    rw [hone, List.append_assoc] at hwith
    have hexposed : k.exposed = n := Column.exposed_of_find? hk
    refine .test (hname.trans (congrArg some hexposed.symm)) (List.mem_of_find?_eq_some hk) ?_ hlive
      hread hwith hwithout
    intro k' hk' hsame
    have hfind := Column.find?_of_mem hnames hk'
    rw [hsame, hexposed] at hfind
    exact Option.some.inj (hfind.symm.trans hk)
  · have hcount := count_reports (m := m) h hselect d
    have hmore : (b.reports v m schema).count d =
        ((b.withoutTerm i).reports v m schema).count d + 1 := by
      simpa [hasked, hfinding, Contribution.finding?] using hcount
    refine .report (hds d (List.count_pos_iff.1 (by omega))) hmore ?_
    intro f' hf'
    rw [hasked] at hf'
    obtain rfl := List.mem_singleton.1 hf'
    exact hrejects

end Body

end Widget

/-- **A term of the body can be traced exactly when its column has a name.** -/
theorem Service.term_traced_iff {σ : Type} {s : Service σ} {st : ServiceState σ} {v : View}
    {b : Widget.Body} {m : Nat} {schema : Schema} {p : Plan} {ds : Diagnostics}
    (hcompile : ((s.compile (b.request v m) schema).run st).1 = .ok (p, ds)) {i : Nat}
    {c : Widget.BodyColumn} (hc : b.columns[i]? = some c) {term : String}
    (hvalue : c.search.value = some term) (hterm : term.isEmpty = false) :
    (∃ others,
      p.filteredCount =
        Plan.countStatement s.dialect v.table (b.whereWith s.dialect v schema others) ∧
      p.data = Plan.dataStatement s.dialect v.table (Plan.select v.columns schema)
        (b.whereWith s.dialect v schema others)
        (Order.items s.dialect v.table v.columns schema b.sortKeys) (b.page m)) ∧
    (b.Traced v m schema ((Diagnostics.collect b.findings).extend ds) i c ↔
      ∃ n, c.exposed? = some n) := by
  rw [run_compile] at hcompile
  obtain ⟨hcheck, hplan, rfl⟩ := planOf_ok hcompile
  have hselect : (Plan.select v.columns schema).isEmpty = false := Plan.isEmpty_select hplan
  obtain ⟨rs, as, -, -, rfl⟩ := Plan.ofRequest_ok hplan
  obtain ⟨others, hfound⟩ : ∃ others, Plan.found s.dialect (b.request v m) schema rs as =
      b.whereWith s.dialect v schema others := ⟨_, Widget.Body.found_eq_whereWith s.dialect rs as⟩
  -- The statements first; then the name, which a trace has and from which one is made.
  refine ⟨⟨others, congrArg (Plan.countStatement s.dialect v.table) hfound, ?_⟩, ?_, ?_⟩
  · exact congrArg (fun found => Plan.dataStatement s.dialect v.table
      (Plan.select v.columns schema) found
      (Order.items s.dialect v.table v.columns schema b.sortKeys) (b.page m)) hfound
  · exact fun htraced => htraced.exposed hc hselect
  · rintro ⟨n, hname⟩
    refine Widget.Body.traced_of_exposed hc hselect (Request.names_of_check hcheck) ?_
      (by rw [hvalue]; exact hterm) hname
    intro d hd
    rw [Diagnostics.extend, List.mem_append, Diagnostics.mem_collect, Diagnostics.mem_collect]
    exact List.mem_append.1 hd

/-! ## Samples -/

namespace Widget

/-- A column that is searched for a term. -/
def BodyColumn.searching (name : Option String) (term : String) : BodyColumn :=
  ⟨name, none, none, none, ⟨some term, none⟩⟩

/-- A body with such columns and nothing else. -/
def Body.searching (columns : List BodyColumn) : Body := ⟨.null, none, none, .empty, columns, []⟩

end Widget

def soughtView : View := ⟨"v", "t", [⟨"a", "a", true, true, none⟩], .none⟩

def soughtSchema : Schema := [⟨"a", "text", .text⟩]

/-- What becomes of a body's request to the view. -/
def compiled (b : Widget.Body) : Except EngineFailure (Plan × Diagnostics) :=
  (((⟨Memory.backend .postgres, none⟩ : Service Memory).compile (b.request soughtView 10)
    soughtSchema).run ⟨none, Memory.ofDialect .postgres, []⟩).1

/-- Terms for the column of the view, and for a column that it lacks. -/
def searchingTwo : Widget.Body :=
  .searching [.searching (some "a") "x", .searching (some "b") "y"]

/-- Both terms can be traced. -/
theorem Service.term_traced_iff_searchingTwo :
    ∃ p ds, compiled searchingTwo = .ok (p, ds) ∧
      searchingTwo.Traced soughtView 10 soughtSchema
        ((Diagnostics.collect searchingTwo.findings).extend ds) 0 (.searching (some "a") "x") ∧
      searchingTwo.Traced soughtView 10 soughtSchema
        ((Diagnostics.collect searchingTwo.findings).extend ds) 1 (.searching (some "b") "y") := by
  have hcompiles : (compiled searchingTwo).toOption.isSome = true := by decide +kernel
  cases hcompile : compiled searchingTwo with
  | error f =>
    rw [hcompile] at hcompiles
    cases hcompiles
  | ok planned =>
    obtain ⟨p, ds⟩ := planned
    exact ⟨p, ds, rfl, (term_traced_iff hcompile rfl rfl (by decide)).2.2 ⟨"a", rfl⟩,
      (term_traced_iff hcompile rfl rfl (by decide)).2.2 ⟨"b", rfl⟩⟩

/-- A term for a column without a name. -/
def nameless : Widget.Body := .searching [.searching none "x"]

/-- The term leaves nothing, neither in the WHERE nor among the diagnostics, while an order item
that points at the column is reported. -/
theorem nameless_untraced :
    (∃ p, compiled nameless = .ok (p, .empty) ∧
      p.filteredCount = ⟨"SELECT COUNT(*) FROM \"t\"", []⟩) ∧
    nameless.findings = [] ∧
    ¬ nameless.Traced soughtView 10 soughtSchema
      ((Diagnostics.collect nameless.findings).extend .empty) 0 (.searching none "x") ∧
    ({ nameless with order := [⟨some 0, none⟩] } : Widget.Body).findings =
      [⟨"#0", .unknownColumn⟩] := by
  refine ⟨⟨_, rfl, by decide +kernel⟩, rfl, fun htraced => ?_, by decide +kernel⟩
  obtain ⟨n, hname⟩ := htraced.exposed rfl (by decide +kernel)
  cases hname

end GridQuery
