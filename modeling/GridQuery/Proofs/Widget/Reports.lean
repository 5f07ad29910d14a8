import GridQuery.Proofs.Plan.Findings
import GridQuery.Widget.Query

/-!
# What a body reports, beside what its request reports

The order items of a body are looked at before there is a request: those that name no column, or
that the client forbids, are reported and left out. The planner looks at the sort keys that are
left, and at the terms. Neither knows the reports of the other, so both may say the same of one
name, and this is the case only for names that are unknown or not sortable.

Main result: `Body.apart_iff`.
-/

namespace GridQuery.Widget.Body

variable {b : Body} {o : BodyOrder} {d : Diagnostic}

theorem mem_findings : d ∈ b.findings ↔ ∃ o ∈ b.order, b.sortKey o = .error d := by
  rw [findings, List.mem_filterMap]
  refine exists_congr fun o => and_congr_right fun _ => ?_
  cases b.sortKey o <;> simp

theorem finding_of_sortKey (h : b.sortKey o = .error d) :
    d.finding = .unknownColumn ∨ d.finding = .notSortable ∨
      ∃ value, d.finding = .invalidDirection value := by
  unfold sortKey at h
  dsimp only at h
  split at h
  · cases h
    exact .inl rfl
  · split at h
    · cases h
      exact .inr (.inl rfl)
    · split at h
      · cases h
      · cases h
        exact .inr (.inr ⟨_, rfl⟩)

/-- The body and the planner say the same of no name. -/
structure SaysOnce (b : Body) (v : View) : Prop where
  /-- Of a name that one order item is kept for while the client forbids another, the column is
  sortable. -/
  sortable : ∀ o ∈ b.order, ∀ n, b.sortKey o = .error ⟨n, .notSortable⟩ →
    (∃ k ∈ b.sortKeys, k.exposed = n) → ∀ c, Column.find? v.columns n = some c → c.sortable = true
  /-- Nothing is asked of the name under which an order item without a column is reported, unless
  the view has that name. -/
  placed : ∀ o ∈ b.order, ∀ n, b.sortKey o = .error ⟨n, .unknownColumn⟩ →
    Column.find? v.columns n = none →
      (∀ f ∈ b.searchOf.perColumn, f.exposed = n → f.term.isEmpty = true) ∧
        ∀ k ∈ b.sortKeys, k.exposed ≠ n

/-- **When the body and the planner of its request report nothing in common.** -/
theorem apart_iff {v : View} {m : Nat} {schema : Schema}
    (hselect : (Plan.select v.columns schema).isEmpty = false) :
    (∀ d ∈ b.findings, d ∉ Plan.findings (b.request v m) schema) ↔ b.SaysOnce v := by
  have hrequest : (Plan.select (b.request v m).columns schema).isEmpty = false := hselect
  constructor
  · intro h
    constructor
    · intro o ho n ho' hk c hc
      have hd := h ⟨n, .notSortable⟩ (mem_findings.2 ⟨o, ho, ho'⟩)
      rw [Plan.notSortable_mem_findings hrequest] at hd
      rw [← Bool.not_eq_false]
      exact fun hsortable => hd ⟨⟨c, hc, hsortable⟩, hk⟩
    · intro o ho n ho' hc
      have hd := h ⟨n, .unknownColumn⟩ (mem_findings.2 ⟨o, ho, ho'⟩)
      rw [Plan.unknownColumn_mem_findings hrequest] at hd
      refine ⟨fun f hf hn => ?_, fun k hk hn => hd ⟨hc, .inr ⟨k, hk, hn⟩⟩⟩
      rw [← Bool.not_eq_false]
      exact fun hterm => hd ⟨hc, .inl ⟨f, hf, hn, hterm⟩⟩
  · intro h d hd
    obtain ⟨o, ho, ho'⟩ := mem_findings.1 hd
    obtain ⟨n, finding⟩ := d
    -- A finding of the body has one of three kinds, and the planner never reports the last one.
    rcases finding_of_sortKey ho' with hfinding | hfinding | ⟨value, hfinding⟩
    · obtain rfl : finding = .unknownColumn := hfinding
      rw [Plan.unknownColumn_mem_findings hrequest]
      rintro ⟨hc, ⟨f, hf, hn, hterm⟩ | ⟨k, hk, hn⟩⟩
      · have hblank := (h.placed o ho n ho' hc).1 f hf hn
        rw [hterm] at hblank
        cases hblank
      · exact (h.placed o ho n ho' hc).2 k hk hn
    · obtain rfl : finding = .notSortable := hfinding
      rw [Plan.notSortable_mem_findings hrequest]
      rintro ⟨⟨c, hc, hsortable⟩, hk⟩
      rw [h.sortable o ho n ho' hk c hc] at hsortable
      cases hsortable
    · obtain rfl : finding = .invalidDirection value := hfinding
      exact Plan.invalidDirection_not_mem_findings hrequest value

end GridQuery.Widget.Body
