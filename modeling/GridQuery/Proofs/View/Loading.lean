import GridQuery.Proofs.Traversal
import GridQuery.View.Document

/-!
# What is loaded

The stages of loading a document of views, each by what it lets through. A view that is loaded is
made from one entry of the document, and every check of a request that could be made without the
table was made.

Main results: `Registry.ofText_ok` and `Registry.valid_of_mem`.
-/

namespace GridQuery

/-! ## Entries of a document -/

/-- **What the column of an entry is.** -/
theorem Column.ofEntry_ok {e : ColumnEntry} {c : Column} (h : ofEntry e = .ok c) :
    ∃ t : Option Transform,
      Option.Rel (fun e t => Transform.ofEntry e = .ok t) e.transform t ∧
      c = ⟨e.source, e.exposed.getD e.source, e.sortable, e.searchable,
        t.map Transform.toCellTransform⟩ := by
  unfold ofEntry at h
  cases ht : e.transform with
  | none =>
    rw [ht] at h
    cases h
    exact ⟨none, .none, rfl⟩
  | some te =>
    cases hte : Transform.ofEntry te with
    | error f => simp [ht, hte, Except.map, bind, Except.bind] at h
    | ok t =>
      simp only [ht, hte, Except.map, bind, Except.bind, pure, Except.pure, Except.ok.injEq] at h
      exact ⟨some t, .some hte, h.symm⟩

/-- **What the view of an entry is.** -/
theorem View.ofEntry_ok {name : String} {e : ViewEntry} {v : View} (h : ofEntry name e = .ok v) :
    ∃ columns result all, e.columns.mapM Column.ofEntry = .ok columns ∧
      e.whereResult.mapM Condition.ofEntry = .ok result ∧
      e.whereAll.mapM Condition.ofEntry = .ok all ∧
      Text.allBlank e.table = false ∧ e.columns.isEmpty = false ∧
      Column.repeatedName columns = none ∧ v = ⟨name, e.table, columns, ⟨result, all⟩⟩ := by
  unfold ofEntry at h
  simp only [throw, throwThe, MonadExceptOf.throw, bind, Except.bind, pure, Except.pure] at h
  -- The checks in their order; each that fails leaves no view.
  cases hblank : Text.allBlank e.table with
  | true => simp [hblank] at h
  | false =>
    cases hempty : e.columns.isEmpty with
    | true => simp [hblank, hempty] at h
    | false =>
      simp only [hblank, hempty, Bool.false_eq_true, if_false] at h
      cases hcolumns : e.columns.mapM Column.ofEntry with
      | error f => simp [hcolumns] at h
      | ok columns =>
        simp only [hcolumns] at h
        cases hname : Column.repeatedName columns with
        | some n => simp [hname] at h
        | none =>
          simp only [hname] at h
          cases hresult : e.whereResult.mapM Condition.ofEntry with
          | error f => simp [hresult] at h
          | ok result =>
            simp only [hresult] at h
            cases hall : e.whereAll.mapM Condition.ofEntry with
            | error f => simp [hall] at h
            | ok all =>
              simp only [hall, Except.ok.injEq] at h
              exact ⟨columns, result, all, rfl, rfl, rfl, rfl, rfl, hname, h.symm⟩

theorem Registry.ofEntries_ok {entries : List (String × ViewEntry)} {vs : List View}
    (h : ofEntries entries = .ok vs) :
    List.Forall₂ (fun p v => View.ofEntry p.1 p.2 = .ok v) entries vs := by
  induction entries generalizing vs with
  | nil =>
    cases h
    exact .nil
  | cons p rest ih =>
    obtain ⟨name, e⟩ := p
    simp only [ofEntries] at h
    split at h
    · cases h
    · rename_i v hv
      cases hrest : ofEntries rest with
      | error f => simp [hrest, Except.map] at h
      | ok ws =>
        simp only [hrest, Except.map, Except.ok.injEq] at h
        subst h
        exact .cons hv (ih hrest)

/-- **What the registry of a document is.** -/
theorem Registry.ofText_ok {text : String} {r : Registry} (h : ofText text = .ok r) :
    ∃ entries, Document.decode ViewEntry.readAll text = .ok entries ∧
      List.Forall₂ (fun p v => View.ofEntry p.1 p.2 = .ok v) (sortEntries entries) r.views := by
  unfold ofText at h
  cases hentries : Document.decode ViewEntry.readAll text with
  | error f => simp [hentries] at h
  | ok entries =>
    simp only [hentries] at h
    cases hviews : ofEntries (sortEntries entries) with
    | error f => simp [hviews, Except.map] at h
    | ok vs =>
      simp only [hviews, Except.map, Except.ok.injEq] at h
      subst h
      exact ⟨entries, rfl, ofEntries_ok hviews⟩

/-! ## Checks -/

/-- A comparison that takes a value has one. -/
def Condition.Complete (c : Condition) : Prop :=
  c.comparison.takesValue = true → c.value.isSome = true

/-- The conditions of a document have the values they need. -/
theorem Condition.complete_ofEntry {e : ConditionEntry} {c : Condition} (h : ofEntry e = .ok c) :
    c.Complete := by
  -- What follows the reading of the value, which is the same with a value and without one.
  have hchecked : ∀ value : Option Value,
      (if e.comparison.takesValue then
        if value.isNone then Except.error (ViewFault.missingValue e.column)
        else .ok ⟨e.column, e.comparison, value⟩
      else .ok ⟨e.column, e.comparison, none⟩) = Except.ok c → c.Complete := by
    intro value hc
    split at hc
    · split at hc
      · cases hc
      · rename_i hsome
        cases hc
        exact fun _ => Option.isSome_iff_ne_none.2 (by simpa using hsome)
    · rename_i htakes
      cases hc
      exact fun htakes' => absurd htakes' htakes
  unfold ofEntry at h
  cases hvalue : e.value with
  | none =>
    rw [hvalue] at h
    exact hchecked none h
  | some v =>
    rw [hvalue] at h
    cases hv : Value.ofJson e.column v with
    | error f => simp [hv, Except.map, bind, Except.bind] at h
    | ok value =>
      simp only [hv] at h
      exact hchecked (some value) h

/-- The view passes the checks of a request that need no table. -/
structure View.Valid (v : View) : Prop where
  table : Text.allBlank v.table = false
  columns : v.columns.isEmpty = false
  names : Column.repeatedName v.columns = none
  conditions : ∀ c ∈ v.base.result ++ v.base.all, c.Complete

theorem View.valid_ofEntry {name : String} {e : ViewEntry} {v : View} (h : ofEntry name e = .ok v) :
    v.Valid := by
  obtain ⟨columns, result, all, hcolumns, hresult, hall, htable, hempty, hnames, rfl⟩ :=
    ofEntry_ok h
  have hmade := mapM_eq_ok_iff.1 hcolumns
  have hconditions : ∀ {es : List ConditionEntry} {cs : List Condition},
      es.mapM Condition.ofEntry = .ok cs → ∀ c ∈ cs, c.Complete := by
    intro es cs hcs c hc
    obtain ⟨k, -, hk⟩ := exists_mem_left_of_forall₂ (mapM_eq_ok_iff.1 hcs) hc
    exact Condition.complete_ofEntry hk
  refine ⟨htable, ?_, hnames, ?_⟩
  · rw [List.isEmpty_eq_false_iff, ← List.length_pos_iff] at hempty ⊢
    exact hmade.length_eq ▸ hempty
  · exact List.forall_mem_append.2 ⟨hconditions hresult, hconditions hall⟩

/-- **Every loaded view passes the checks.** -/
theorem Registry.valid_of_mem {text : String} {r : Registry} (h : ofText text = .ok r) {v : View}
    (hv : v ∈ r.views) : v.Valid := by
  obtain ⟨entries, -, hviews⟩ := ofText_ok h
  obtain ⟨p, -, hp⟩ := exists_mem_left_of_forall₂ hviews hv
  exact View.valid_ofEntry hp

end GridQuery
