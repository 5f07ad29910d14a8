import GridQuery.Proofs.Grid.Collector
import GridQuery.Proofs.Plan.Findings
import GridQuery.Proofs.Sql.Joined
import GridQuery.Proofs.Traversal

/-!
# What every search entry comes to

An entry with a term passes the checks on its name, on who may search the column, on the table and
on the term, in this order. Either it passes them all and is one predicate of the filter, or the
first check that it fails is reported. A global search goes by the columns instead, and of these
only those that the term does not fit are reported; the others are left out in silence.

Main result: `Filter.accounts`. The two directions of "either, or" are `Search.admits_or_faults` and
the two computations `Search.ofEntry_of_admits` and `Search.ofEntry_of_faults`, which say that
nothing else comes of an entry.
-/

namespace GridQuery

/-! ## Predicates of contributions and of terms -/

/-- The predicate of a contribution, if it is a test. -/
def Contribution.predicate? (d : Dialect) (x : Contribution) : Option Predicate :=
  x.test?.map fun t => t.2.predicate d t.1

theorem Contribution.predicates_eq (d : Dialect) (cs : List Contribution) :
    predicates d cs = cs.filterMap (predicate? d) :=
  List.map_filterMap

/-- Tests are never empty predicates. -/
theorem Contribution.filled_predicates (d : Dialect) (cs : List Contribution) :
    (predicates d cs).filter (!·.isEmpty) = predicates d cs :=
  Predicate.filter_filled (reads_predicates d cs)

namespace Predicate

variable {d : Dialect} {source term : String} {category : Category} {regex : Bool}

theorem ofTerm_eq : ofTerm d source category term regex =
    (TermTest.read category term regex).map (TermTest.predicate d source) := rfl

theorem ofTerm_ok {p : Predicate} (h : ofTerm d source category term regex = .ok p) :
    ∃ t, TermTest.read category term regex = .ok t ∧ t.predicate d source = p := by
  rw [ofTerm_eq] at h
  cases hread : TermTest.read category term regex with
  | error skip =>
    rw [hread] at h
    cases h
  | ok t =>
    rw [hread] at h
    exact ⟨t, rfl, Except.ok.inj h⟩

theorem ofTerm_error {skip : TermSkip} (h : ofTerm d source category term regex = .error skip) :
    TermTest.read category term regex = .error skip := by
  rw [ofTerm_eq] at h
  cases hread : TermTest.read category term regex with
  | error skip' =>
    rw [hread] at h
    exact congrArg _ (Except.error.inj h)
  | ok t =>
    rw [hread] at h
    cases h

end Predicate

namespace Search

open Contribution Predicate

variable {d : Dialect} {columns : List Column} {schema : Schema} {s : Search} {f : ColumnSearch}
  {c : Column} {live : CatalogColumn} {p : Predicate} {g : Diagnostic}

/-! ## Entries -/

/-- The term of an entry is for a column that may be searched, and the table has the column. -/
structure Reaches (columns : List Column) (schema : Schema) (f : ColumnSearch) (c : Column)
    (live : CatalogColumn) : Prop where
  term : f.term.isEmpty = false
  mem : c ∈ columns
  exposed : c.exposed = f.exposed
  allowed : f.allowed = true
  searchable : c.searchable = true
  present : schema.find? c.source = some live

/-- The entry is this predicate. -/
def Admits (d : Dialect) (columns : List Column) (schema : Schema) (f : ColumnSearch)
    (p : Predicate) : Prop :=
  ∃ c live, Reaches columns schema f c live ∧
    Predicate.ofTerm d c.source live.category f.term f.regex = .ok p

/-- The first check that the entry fails, and what is reported of it. -/
inductive Faults (d : Dialect) (columns : List Column) (schema : Schema) (f : ColumnSearch) :
    Diagnostic → Prop
  | unknown (hterm : f.term.isEmpty = false) (hname : ∀ c ∈ columns, c.exposed ≠ f.exposed) :
      Faults d columns schema f ⟨f.exposed, .unknownColumn⟩
  | shut {c : Column} (hterm : f.term.isEmpty = false) (hc : c ∈ columns)
      (hname : c.exposed = f.exposed) (h : f.allowed = false ∨ c.searchable = false) :
      Faults d columns schema f ⟨c.exposed, .notSearchable⟩
  | missing {c : Column} (hterm : f.term.isEmpty = false) (hc : c ∈ columns)
      (hname : c.exposed = f.exposed) (hallowed : f.allowed = true)
      (hsearchable : c.searchable = true) (h : schema.find? c.source = none) :
      Faults d columns schema f ⟨c.source, .missingSchemaColumn⟩
  | unreadable {c : Column} {live : CatalogColumn} (hreaches : Reaches columns schema f c live)
      (h : Predicate.ofTerm d c.source live.category f.term f.regex = .error .unparsable) :
      Faults d columns schema f ⟨c.exposed, .unreadableTerm live.category.label f.term⟩
  | unsupported {c : Column} {live : CatalogColumn} (hreaches : Reaches columns schema f c live)
      (h : Predicate.ofTerm d c.source live.category f.term f.regex =
        .error .unsupportedCategory) :
      Faults d columns schema f ⟨c.exposed, .unsupportedType live.rawType⟩

/-- An entry with a term passes all checks, or there is a first one that it fails. -/
theorem admits_or_faults (d : Dialect) (columns : List Column) (schema : Schema)
    (hterm : f.term.isEmpty = false) :
    (∃ p, Admits d columns schema f p) ∨ ∃ g, Faults d columns schema f g := by
  -- The checks come one by one in the order in which the entry goes through them.
  cases hfind : Column.find? columns f.exposed with
  | none =>
    refine .inr ⟨_, .unknown hterm fun c hc => ?_⟩
    simpa using List.find?_eq_none.1 hfind c hc
  | some c =>
    have hc : c ∈ columns := List.mem_of_find?_eq_some hfind
    have hname : c.exposed = f.exposed := Column.exposed_of_find? hfind
    by_cases hshut : f.allowed = false ∨ c.searchable = false
    · exact .inr ⟨_, .shut hterm hc hname hshut⟩
    · rw [not_or, Bool.not_eq_false, Bool.not_eq_false] at hshut
      cases hlive : schema.find? c.source with
      | none => exact .inr ⟨_, .missing hterm hc hname hshut.1 hshut.2 hlive⟩
      | some live =>
        have hreaches : Reaches columns schema f c live :=
          ⟨hterm, hc, hname, hshut.1, hshut.2, hlive⟩
        cases h : Predicate.ofTerm d c.source live.category f.term f.regex with
        | ok p => exact .inl ⟨p, c, live, hreaches, h⟩
        | error skip =>
          cases skip with
          | emptyTerm => exact absurd (ofTerm_error h) (TermTest.read_ne_emptyTerm hterm)
          | unparsable => exact .inr ⟨_, .unreadable hreaches h⟩
          | unsupportedCategory => exact .inr ⟨_, .unsupported hreaches h⟩

section Names

variable (hnames : (columns.map (·.exposed)).Nodup)

include hnames

theorem Reaches.find? (h : Reaches columns schema f c live) :
    Column.find? columns f.exposed = some c := by
  rw [← h.exposed]
  exact Column.find?_of_mem hnames h.mem

theorem ofEntry_of_admits (h : Admits d columns schema f p) :
    predicate? d (ofEntry columns schema f) = some p ∧
      (ofEntry columns schema f).finding? = none := by
  obtain ⟨c, live, hreaches, hterm⟩ := h
  obtain ⟨t, hread, rfl⟩ := ofTerm_ok hterm
  have htest : ofEntry columns schema f = .test c.source t := by
    simp [ofEntry, hreaches.term, hreaches.find? hnames, hreaches.allowed, hreaches.searchable,
      hreaches.present, hread]
  rw [htest]
  exact ⟨rfl, rfl⟩

theorem ofEntry_of_faults (h : Faults d columns schema f g) :
    ofEntry columns schema f = .finding g := by
  cases h with
  | unknown hterm hname =>
    refine ofEntry_unknown (List.find?_eq_none.2 fun c hc => ?_) hterm
    simpa using hname c hc
  | shut hterm hc hname h =>
    exact ofEntry_shut (hname ▸ Column.find?_of_mem hnames hc) hterm h
  | missing hterm hc hname hallowed hsearchable h =>
    have hfind := hname ▸ Column.find?_of_mem hnames hc
    simp [ofEntry, hterm, hfind, hallowed, hsearchable, h]
  | unreadable hreaches h =>
    simp [ofEntry, hreaches.term, hreaches.find? hnames, hreaches.allowed, hreaches.searchable,
      hreaches.present, ofTerm_error h, Search.unreadable]
  | unsupported hreaches h =>
    simp [ofEntry, hreaches.term, hreaches.find? hnames, hreaches.allowed, hreaches.searchable,
      hreaches.present, ofTerm_error h]

theorem predicate?_ofEntry_iff :
    predicate? d (ofEntry columns schema f) = some p ↔ Admits d columns schema f p := by
  refine ⟨fun h => ?_, fun h => (ofEntry_of_admits hnames h).1⟩
  cases hterm : f.term.isEmpty with
  | true =>
    rw [ofEntry_blank hterm] at h
    cases h
  | false =>
    rcases admits_or_faults d columns schema hterm with ⟨q, hq⟩ | ⟨g, hg⟩
    · rw [(ofEntry_of_admits hnames hq).1] at h
      exact Option.some.inj h ▸ hq
    · rw [ofEntry_of_faults hnames hg] at h
      cases h

theorem finding?_ofEntry_iff (d : Dialect) :
    (ofEntry columns schema f).finding? = some g ↔ Faults d columns schema f g := by
  refine ⟨fun h => ?_, fun h => by rw [ofEntry_of_faults hnames h]; rfl⟩
  cases hterm : f.term.isEmpty with
  | true =>
    rw [ofEntry_blank hterm] at h
    cases h
  | false =>
    rcases admits_or_faults d columns schema hterm with ⟨q, hq⟩ | ⟨g', hg⟩
    · rw [(ofEntry_of_admits hnames hq).2] at h
      cases h
    · rw [ofEntry_of_faults hnames hg] at h
      exact Option.some.inj h ▸ hg

theorem not_faults_of_admits (h : Admits d columns schema f p) : ¬ Faults d columns schema f g := by
  intro hg
  have hfinding := (finding?_ofEntry_iff hnames d).2 hg
  rw [(ofEntry_of_admits hnames h).2] at hfinding
  cases hfinding

end Names

/-! ## Columns of a global search -/

/-- There is a global search with a term, and it looks at the column. -/
structure LooksAt (s : Search) (o : GlobalSearch) (c : Column) : Prop where
  overall : s.overall = some o
  term : o.term.isEmpty = false
  searchable : c.searchable = true
  allowed : ∀ f ∈ s.perColumn, f.exposed = c.exposed → f.allowed = true

/-- The column is this predicate in the global search. -/
def AdmitsColumn (d : Dialect) (schema : Schema) (s : Search) (c : Column) (p : Predicate) : Prop :=
  ∃ o, LooksAt s o c ∧ ∃ live, schema.find? c.source = some live ∧
    Predicate.ofTerm d c.source live.category o.term o.regex = .ok p

/-- The term of the global search is no value of the column, and this is reported. -/
def FaultsColumn (d : Dialect) (schema : Schema) (s : Search) (c : Column) (g : Diagnostic) :
    Prop :=
  ∃ o, LooksAt s o c ∧ ∃ live, schema.find? c.source = some live ∧
    Predicate.ofTerm d c.source live.category o.term o.regex = .error .unparsable ∧
    g = ⟨c.exposed, .unreadableTerm live.category.label o.term⟩

theorem predicate?_ofGlobal_iff {o : GlobalSearch} :
    predicate? d (ofGlobal schema o c) = some p ↔
      ∃ live, schema.find? c.source = some live ∧
        Predicate.ofTerm d c.source live.category o.term o.regex = .ok p := by
  unfold ofGlobal
  cases hlive : schema.find? c.source with
  | none => simp [predicate?, Contribution.test?]
  | some live =>
    simp only [Option.some.injEq, exists_eq_left', ofTerm_eq]
    cases hread : TermTest.read live.category o.term o.regex with
    | ok t => simp [predicate?, Contribution.test?, Except.map]
    | error skip => cases skip <;> simp [predicate?, Contribution.test?, Except.map]

theorem finding?_ofGlobal_iff (d : Dialect) {o : GlobalSearch} :
    (ofGlobal schema o c).finding? = some g ↔
      ∃ live, schema.find? c.source = some live ∧
        Predicate.ofTerm d c.source live.category o.term o.regex = .error .unparsable ∧
        g = ⟨c.exposed, .unreadableTerm live.category.label o.term⟩ := by
  unfold ofGlobal
  cases hlive : schema.find? c.source with
  | none => simp [Contribution.finding?]
  | some live =>
    simp only [Option.some.injEq, exists_eq_left', ofTerm_eq]
    cases hread : TermTest.read live.category o.term o.regex with
    | ok t => simp [Contribution.finding?, Except.map]
    | error skip =>
      cases skip <;> simp [Contribution.finding?, Except.map, Search.unreadable, eq_comm]

theorem allows_iff {n : String} :
    s.allows n = true ↔ ∀ f ∈ s.perColumn, f.exposed = n → f.allowed = true := by
  simp [allows, Classical.or_iff_not_imp_left]

/-- What a global search gives is sifted out of the columns that it looks at. -/
theorem sifted_global {α : Type} {q : GlobalSearch → Column → α → Prop}
    {pick : Contribution → Option α} (columns : List Column) (s : Search)
    (hpick : ∀ o c x, pick (ofGlobal schema o c) = some x ↔ q o c x) :
    Sifted (fun c x => ∃ o, LooksAt s o c ∧ q o c x) columns
      ((s.global columns schema).filterMap pick) := by
  unfold global
  cases hoverall : s.overall with
  | none =>
    rw [List.filterMap_nil]
    refine .empty fun c _ x => ?_
    rintro ⟨o, hlooks, -⟩
    rw [hlooks.overall] at hoverall
    cases hoverall
  | some o =>
    -- There is one global search, so every column that is looked at is looked at with it.
    have hsame : ∀ {c o'}, LooksAt s o' c → o' = o := fun h =>
      Option.some.inj (h.overall.symm.trans hoverall)
    cases hterm : o.term.isEmpty with
    | true =>
      simp only [hterm, if_true, List.filterMap_nil]
      refine .empty fun c _ x => ?_
      rintro ⟨o', hlooks, -⟩
      rw [← hsame hlooks, hlooks.term] at hterm
      cases hterm
    | false =>
      simp only [hterm, Bool.false_eq_true, if_false, List.filterMap_map]
      refine Sifted.of_filter (.of_filterMap fun c hc x => ?_) fun c _ x => ?_
      · obtain ⟨-, hlook⟩ := List.mem_filter.1 hc
        rw [Bool.and_eq_true, allows_iff] at hlook
        rw [Function.comp_apply, hpick]
        refine ⟨fun h => ⟨o, ⟨hoverall, hterm, hlook.1, hlook.2⟩, h⟩, ?_⟩
        rintro ⟨o', hlooks, h⟩
        exact hsame hlooks ▸ h
      · rintro ⟨o', hlooks, -⟩
        rw [Bool.and_eq_true, allows_iff]
        exact ⟨hlooks.searchable, hlooks.allowed⟩

end Search

/-! ## The filter -/

namespace Filter

open Search

/-- Nothing of a search is lost, and nothing else comes of it: the predicates and the diagnostics
of its entries, and of the columns in a global search, are those of the filter. The diagnostics are
added to `ds`. -/
structure Accounts (d : Dialect) (columns : List Column) (schema : Schema) (s : Search)
    (ds : Diagnostics) : Prop where
  individual : ∃ ps, Sifted (Admits d columns schema) s.perColumn ps ∧
    Predicate.Joins d " AND " ps (ofSearch d columns schema s).individual
  global : ∃ ps, Sifted (AdmitsColumn d schema s) columns ps ∧
    Predicate.Joins d " OR " ps (ofSearch d columns schema s).global
  reported : ∃ gs hs, Sifted (Faults d columns schema) s.perColumn gs ∧
    Sifted (FaultsColumn d schema s) columns hs ∧
    (ds.pushAll (findings columns schema s)).entries =
      ds.entries ++ ((gs ++ hs).filter (· ∉ ds.entries)).eraseDups
  /-- An entry with a term is reported exactly when it is not a predicate. -/
  decided : ∀ f ∈ s.perColumn, f.term.isEmpty = false →
    ((∃ g, Faults d columns schema f g) ↔ ¬ ∃ p, Admits d columns schema f p)

/-- **A filter accounts for every entry of its search and for every column of a global one.** -/
theorem accounts (d : Dialect) {columns : List Column} (schema : Schema) (s : Search)
    (ds : Diagnostics) (hnames : (columns.map (·.exposed)).Nodup) :
    Accounts d columns schema s ds := by
  have hadmits : Sifted (Admits d columns schema) s.perColumn
      (Contribution.predicates d (s.individual columns schema)) := by
    rw [Contribution.predicates_eq, Search.individual, List.filterMap_map]
    exact .of_filterMap fun f _ p => predicate?_ofEntry_iff hnames
  have hfaults : Sifted (Faults d columns schema) s.perColumn
      (Contribution.findings (s.individual columns schema)) := by
    rw [Contribution.findings, Search.individual, List.filterMap_map]
    exact .of_filterMap fun f _ g => finding?_ofEntry_iff hnames d
  have hadmits' : Sifted (AdmitsColumn d schema s) columns
      (Contribution.predicates d (s.global columns schema)) := by
    rw [Contribution.predicates_eq]
    exact sifted_global columns s fun o c p => predicate?_ofGlobal_iff
  have hfaults' : Sifted (FaultsColumn d schema s) columns
      (Contribution.findings (s.global columns schema)) :=
    sifted_global columns s fun o c g => finding?_ofGlobal_iff d
  -- Both halves are joined alike, whatever stands between their predicates.
  have hjoins : ∀ sep cs, Predicate.Joins d sep (Contribution.predicates d cs)
      (Predicate.group sep (Contribution.predicates d cs)) := by
    intro sep cs
    have h := Predicate.joins_group d sep (Contribution.predicates d cs)
    rwa [Contribution.filled_predicates] at h
  refine ⟨⟨_, hadmits, hjoins _ _⟩, ⟨_, hadmits', hjoins _ _⟩,
    ⟨_, _, hfaults, hfaults', ds.entries_pushAll _⟩, fun f _ hterm => ?_⟩
  constructor
  · rintro ⟨g, hg⟩ ⟨p, hp⟩
    exact not_faults_of_admits hnames hp hg
  · exact (admits_or_faults d columns schema hterm).resolve_left

/-! ## A search with something of everything -/

def mixedColumns : List Column :=
  [⟨"a", "Age", true, true, none⟩, ⟨"b", "Blob", true, true, none⟩,
    ⟨"c", "Closed", true, false, none⟩, ⟨"gone", "Gone", true, true, none⟩,
    ⟨"t", "Text", true, true, none⟩]

def mixedSchema : Schema :=
  [⟨"t", "varchar", .text⟩, ⟨"b", "bytea", .unknown⟩, ⟨"a", "int4", .integer⟩,
    ⟨"c", "text", .text⟩]

def mixedSearch : Search where
  perColumn := [⟨"Age", "x", false, true⟩, ⟨"Age", " 42 ", false, true⟩, ⟨"Text", "", false, true⟩,
    ⟨"age", "1", false, true⟩, ⟨"Closed", "1", false, true⟩, ⟨"Gone", "1", false, true⟩,
    ⟨"Blob", "1", false, true⟩, ⟨"Text", "%", false, true⟩, ⟨"Age", "x", false, true⟩]
  overall := some ⟨"y", false⟩

theorem accounts_mixed :
    Accounts .postgres mixedColumns mixedSchema mixedSearch ⟨[⟨"age", .unknownColumn⟩]⟩ ∧
      ((⟨[⟨"age", .unknownColumn⟩]⟩ : Diagnostics).pushAll
        (findings mixedColumns mixedSchema mixedSearch)).entries =
          [⟨"age", .unknownColumn⟩, ⟨"Age", .unreadableTerm "integer" "x"⟩,
            ⟨"Closed", .notSearchable⟩, ⟨"gone", .missingSchemaColumn⟩,
            ⟨"Blob", .unsupportedType "bytea"⟩, ⟨"Age", .unreadableTerm "integer" "y"⟩] :=
  ⟨accounts .postgres mixedSchema mixedSearch _ (by decide), by decide +kernel⟩

end Filter

end GridQuery
