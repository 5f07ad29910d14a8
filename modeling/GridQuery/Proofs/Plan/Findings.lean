import GridQuery.Proofs.Plan.Disabled

/-!
# What planning reports

A term either asks something of a column of the table or is rejected, and every rejection is
reported. Which names are reported as unknown or as not sortable is read off the search entries and
the sort keys.

Main results: `Search.ofEntry_cases`, and `Plan.unknownColumn_mem_findings` and
`Plan.notSortable_mem_findings` for a request that has a plan.
-/

namespace GridQuery

theorem TermTest.read_ne_emptyTerm {category : Category} {term : String} {regex : Bool}
    (h : term.isEmpty = false) : read category term regex ≠ .error .emptyTerm := by
  intro hread
  cases category with
  | text =>
    cases regex with
    | false => simp [read, readWith, h] at hread
    | true =>
      simp only [read, readWith, h, Bool.false_eq_true, if_false, if_true] at hread
      split at hread <;> cases hread
  | unknown => simp [read, readWith, h] at hread
  | _ =>
    simp only [read, readWith, h, Bool.false_eq_true, if_false] at hread
    split at hread <;> cases hread

/-! ## Search entries -/

namespace Search

variable {columns : List Column} {schema : Schema} {f : ColumnSearch} {d : Diagnostic}

/-- The term of an entry is turned down, and this is what is reported. -/
inductive Rejects (columns : List Column) (schema : Schema) (f : ColumnSearch) : Diagnostic → Prop
  | unknown (hc : Column.find? columns f.exposed = none) :
      Rejects columns schema f ⟨f.exposed, .unknownColumn⟩
  | shut {c : Column} (hc : Column.find? columns f.exposed = some c)
      (h : f.allowed = false ∨ c.searchable = false) :
      Rejects columns schema f ⟨f.exposed, .notSearchable⟩
  | missing {c : Column} (hc : Column.find? columns f.exposed = some c)
      (h : schema.find? c.source = none) :
      Rejects columns schema f ⟨c.source, .missingSchemaColumn⟩
  | unreadable {c : Column} {live : CatalogColumn}
      (hc : Column.find? columns f.exposed = some c) (hlive : schema.find? c.source = some live)
      (h : TermTest.read live.category f.term f.regex = .error .unparsable) :
      Rejects columns schema f ⟨f.exposed, .unreadableTerm live.category.label f.term⟩
  | unsupported {c : Column} {live : CatalogColumn}
      (hc : Column.find? columns f.exposed = some c) (hlive : schema.find? c.source = some live)
      (h : TermTest.read live.category f.term f.regex = .error .unsupportedCategory) :
      Rejects columns schema f ⟨f.exposed, .unsupportedType live.rawType⟩

/-- **A term is a test on the column that it is for, or it is rejected and this is reported.** -/
theorem ofEntry_cases (hf : f.term.isEmpty = false) :
    (∃ c live t, Column.find? columns f.exposed = some c ∧ schema.find? c.source = some live ∧
      TermTest.read live.category f.term f.regex = .ok t ∧
      ofEntry columns schema f = .test c.source t) ∨
    ∃ d, Rejects columns schema f d ∧ ofEntry columns schema f = .finding d := by
  -- The cases are the checks in their order: name, permission, schema, then the term itself.
  cases hc : Column.find? columns f.exposed with
  | none => exact .inr ⟨_, .unknown hc, ofEntry_unknown hc hf⟩
  | some c =>
    have hname := Column.exposed_of_find? hc
    by_cases hshut : f.allowed = false ∨ c.searchable = false
    · exact .inr ⟨_, .shut hc hshut, hname ▸ ofEntry_shut hc hf hshut⟩
    · rw [not_or, Bool.not_eq_false, Bool.not_eq_false] at hshut
      cases hlive : schema.find? c.source with
      | none => exact .inr ⟨_, .missing hc hlive, by simp [ofEntry, hf, hc, hshut, hlive]⟩
      | some live =>
        cases hread : TermTest.read live.category f.term f.regex with
        | ok t =>
          exact .inl ⟨c, live, t, rfl, hlive, hread, by simp [ofEntry, hf, hc, hshut, hlive, hread]⟩
        | error skip =>
          refine .inr ?_
          cases skip with
          | emptyTerm => exact absurd hread (TermTest.read_ne_emptyTerm hf)
          | unparsable =>
            exact ⟨_, .unreadable hc hlive hread,
              by simp [ofEntry, hf, hc, hshut, hlive, hread, Search.unreadable, hname]⟩
          | unsupportedCategory =>
            exact ⟨_, .unsupported hc hlive hread,
              by simp [ofEntry, hf, hc, hshut, hlive, hread, hname]⟩

theorem rejects_of_finding (h : (ofEntry columns schema f).finding? = some d) :
    f.term.isEmpty = false ∧ Rejects columns schema f d := by
  cases hf : f.term.isEmpty with
  | true =>
    rw [ofEntry_blank hf] at h
    cases h
  | false =>
    rcases ofEntry_cases hf with
      ⟨c, live, t, -, -, -, htest⟩ | ⟨d', hd', hfinding⟩
    · rw [htest] at h
      cases h
    · rw [hfinding] at h
      obtain rfl := Option.some.inj h
      exact ⟨rfl, hd'⟩

end Search

/-! ## The findings of a plan -/

namespace Filter

variable {columns : List Column} {schema : Schema} {s : Search} {n : String}

theorem unknownColumn_mem_findings :
    ⟨n, .unknownColumn⟩ ∈ findings columns schema s ↔ Column.find? columns n = none ∧
      ∃ f ∈ s.perColumn, f.exposed = n ∧ f.term.isEmpty = false := by
  rw [findings, List.mem_append, Contribution.findings, Search.individual, List.filterMap_map]
  constructor
  · rintro (h | h)
    · obtain ⟨f, hf, hfinding⟩ := List.mem_filterMap.1 h
      obtain ⟨hterm, hrejects⟩ := Search.rejects_of_finding hfinding
      cases hrejects with
      | unknown hc => exact ⟨hc, f, hf, rfl, hterm⟩
    · obtain ⟨c, live, term, hd⟩ := Search.unreadable_of_global h
      cases hd
  · rintro ⟨hc, f, hf, rfl, hterm⟩
    refine .inl (List.mem_filterMap.2 ⟨f, hf, ?_⟩)
    rw [Function.comp_apply, Search.ofEntry_unknown hc hterm]
    rfl

/-- A search reports nothing of sorting. -/
theorem not_mem_findings {d : Diagnostic}
    (h : d.finding = .notSortable ∨ ∃ value, d.finding = .invalidDirection value) :
    d ∉ findings columns schema s := by
  rw [findings, List.mem_append, Contribution.findings, Search.individual, List.filterMap_map]
  rintro (hd | hd)
  · obtain ⟨f, -, hfinding⟩ := List.mem_filterMap.1 hd
    obtain ⟨-, hrejects⟩ := Search.rejects_of_finding hfinding
    cases hrejects <;> simp at h
  · obtain ⟨c, live, term, rfl⟩ := Search.unreadable_of_global hd
    simp [Search.unreadable] at h

end Filter

namespace Order

variable {columns : List Column} {schema : Schema} {order : List SortKey} {n : String}

theorem mem_findings {d : Diagnostic} :
    d ∈ findings columns schema order ↔ ∃ k ∈ order, k.resolve columns schema = .error d := by
  rw [findings, List.mem_filterMap]
  refine exists_congr fun k => and_congr_right fun _ => ?_
  cases k.resolve columns schema <;> simp

theorem unknownColumn_mem_findings :
    ⟨n, .unknownColumn⟩ ∈ findings columns schema order ↔
      Column.find? columns n = none ∧ ∃ k ∈ order, k.exposed = n := by
  rw [mem_findings]
  constructor
  · rintro ⟨k, hk, h⟩
    unfold SortKey.resolve at h
    cases hc : Column.find? columns k.exposed with
    | none =>
      simp only [hc, Except.error.injEq, Diagnostic.mk.injEq, and_true] at h
      exact ⟨h ▸ hc, k, hk, h⟩
    | some c =>
      simp only [hc] at h
      split at h
      · simp at h
      · split at h <;> simp at h
  · rintro ⟨hc, k, hk, rfl⟩
    exact ⟨k, hk, by simp only [SortKey.resolve, hc]⟩

theorem notSortable_mem_findings :
    ⟨n, .notSortable⟩ ∈ findings columns schema order ↔
      (∃ c, Column.find? columns n = some c ∧ c.sortable = false) ∧ ∃ k ∈ order, k.exposed = n := by
  rw [mem_findings]
  constructor
  · rintro ⟨k, hk, h⟩
    -- Of the three faults of a key only the second one is this finding.
    unfold SortKey.resolve at h
    cases hc : Column.find? columns k.exposed with
    | none => simp [hc] at h
    | some c =>
      have hname := Column.exposed_of_find? hc
      simp only [hc] at h
      split at h
      · rename_i hsortable
        simp only [Except.error.injEq, Diagnostic.mk.injEq, and_true] at h
        obtain rfl := hname.symm.trans h
        exact ⟨⟨c, hc, by simpa using hsortable⟩, k, hk, rfl⟩
      · split at h <;> simp at h
  · rintro ⟨⟨c, hc, hsortable⟩, k, hk, rfl⟩
    exact ⟨k, hk, by simp [SortKey.resolve, hc, hsortable, Column.exposed_of_find? hc]⟩

theorem invalidDirection_not_mem_findings (value : String) :
    ⟨n, .invalidDirection value⟩ ∉ findings columns schema order := by
  rw [mem_findings]
  rintro ⟨k, -, h⟩
  unfold SortKey.resolve at h
  split at h
  · simp at h
  · split at h
    · simp at h
    · split at h <;> simp at h

end Order

namespace Plan

variable {r : Request} {schema : Schema} {n : String}

/-- What is missing in the schema is reported as such. -/
theorem finding_of_selectFindings {columns : List Column} {d : Diagnostic}
    (h : d ∈ selectFindings columns schema) : d.finding = .missingSchemaColumn := by
  obtain ⟨c, -, rfl⟩ := List.mem_map.1 h
  rfl

theorem mem_findings (hselect : (select r.columns schema).isEmpty = false) {d : Diagnostic}
    (hd : d.finding ≠ .missingSchemaColumn) :
    d ∈ findings r schema ↔ d ∈ Filter.findings r.columns schema r.search ∨
      d ∈ Order.findings r.columns schema r.order := by
  have hmissing : d ∉ selectFindings r.columns schema := fun h => hd (finding_of_selectFindings h)
  rw [findings, hselect, List.mem_append, or_iff_right hmissing, if_neg (by decide),
    List.mem_append]

/-- **A name is reported as unknown when no column has it and a term or a sort key asks for it.** -/
theorem unknownColumn_mem_findings (hselect : (select r.columns schema).isEmpty = false) :
    ⟨n, .unknownColumn⟩ ∈ findings r schema ↔ Column.find? r.columns n = none ∧
      ((∃ f ∈ r.search.perColumn, f.exposed = n ∧ f.term.isEmpty = false) ∨
        ∃ k ∈ r.order, k.exposed = n) := by
  rw [mem_findings hselect (by simp), Filter.unknownColumn_mem_findings,
    Order.unknownColumn_mem_findings, ← and_or_left]

/-- **A name is reported as not sortable when its column is not and a sort key asks for it.** -/
theorem notSortable_mem_findings (hselect : (select r.columns schema).isEmpty = false) :
    ⟨n, .notSortable⟩ ∈ findings r schema ↔
      (∃ c, Column.find? r.columns n = some c ∧ c.sortable = false) ∧
        ∃ k ∈ r.order, k.exposed = n := by
  rw [mem_findings hselect (by simp), or_iff_right (Filter.not_mem_findings (.inl rfl)),
    Order.notSortable_mem_findings]

theorem invalidDirection_not_mem_findings (hselect : (select r.columns schema).isEmpty = false)
    (value : String) : ⟨n, .invalidDirection value⟩ ∉ findings r schema := by
  rw [mem_findings hselect (by simp), not_or]
  exact ⟨Filter.not_mem_findings (.inr ⟨value, rfl⟩),
    Order.invalidDirection_not_mem_findings value⟩

end Plan

end GridQuery
