import GridQuery.Json.Decode
import GridQuery.Proofs.Traversal

/-!
# Records that are written differently

The same record can be written in several ways: its members may have other forms that mean the same,
and a member that is null may be left out. Where every field reads both forms of its member alike,
both ways of writing the record are collected into drafts that stay related, step by step: a member
that is left out is one that would have been set to null, and leaves a slot open that was filled
with nothing.

Main results: `Document.asRecord_rewritten` and `Document.Thinned.asJson`.
-/

namespace GridQuery.Document

/-- The members of an object in two forms. What `rel` relates may stand under a name, and members
that are null may be left out. -/
inductive Entries (rel : String → Document → Document → Prop) :
    List (Option String × Document) → List (Option String × Document) → Prop
  | nil : Entries rel [] []
  | kept {name : String} {d d' : Document} {es es' : List (Option String × Document)}
      (hd : rel name d d') (hes : Entries rel es es') :
      Entries rel ((some name, d) :: es) ((some name, d') :: es')
  | dropped {name : String} {es es' : List (Option String × Document)} (hes : Entries rel es es') :
      Entries rel ((some name, .null) :: es) es'

/-- A value from which null members are left out, of whatever objects it holds. -/
inductive Thinned : Document → Document → Prop
  | same (d : Document) : Thinned d d
  | array {items items' : List Document} {closed : Bool} (h : List.Forall₂ Thinned items items') :
      Thinned (.array items closed) (.array items' closed)
  | object {es es' : List (Option String × Document)} {closed : Bool}
      (h : Entries (fun _ => Thinned) es es') : Thinned (.object es closed) (.object es' closed)

theorem Thinned.isWhole {d d' : Document} (h : Thinned d d') : d'.isWhole = d.isWhole := by
  cases h <;> rfl

/-! ## Any value -/

theorem asJson_array {room : Nat} {items : List Document} {closed : Bool} {v : Json}
    (h : (Document.array items closed).asJson room = .ok v) :
    room ≠ 0 ∧ closed = true ∧ ∃ vs, asJsonItems (room - 1) items = .ok vs := by
  rw [asJson] at h
  split at h
  · cases h
  · rename_i hroom
    obtain ⟨vs, hvs, h⟩ := bind_eq_ok_iff.1 h
    cases closed with
    | true => exact ⟨hroom, rfl, vs, hvs⟩
    | false => cases h

theorem asJson_object {room : Nat} {es : List (Option String × Document)} {closed : Bool} {v : Json}
    (h : (Document.object es closed).asJson room = .ok v) :
    room ≠ 0 ∧ closed = true ∧ ∃ members, asJsonFields (room - 1) es [] = .ok members := by
  rw [asJson] at h
  split at h
  · cases h
  · rename_i hroom
    obtain ⟨members, hmembers, h⟩ := bind_eq_ok_iff.1 h
    cases closed with
    | true => exact ⟨hroom, rfl, members, hmembers⟩
    | false => cases h

mutual

/-- **What can be read can be read without null members.** -/
theorem Thinned.asJson : (d : Document) → {d' : Document} → Thinned d d' →
    ∀ {room : Nat} {v : Json}, d.asJson room = .ok v → ∃ v', d'.asJson room = .ok v'
  | .array items closed, d', h, room, v, hv => by
    cases h with
    | same => exact ⟨v, hv⟩
    | array h =>
      obtain ⟨hroom, rfl, vs, hvs⟩ := asJson_array hv
      obtain ⟨vs', hvs'⟩ := asJsonItems_thinned items h hvs
      exact ⟨.array vs', by rw [Document.asJson, if_neg hroom, hvs']; rfl⟩
  | .object es closed, d', h, room, v, hv => by
    cases h with
    | same => exact ⟨v, hv⟩
    | object h =>
      obtain ⟨hroom, rfl, members, hmembers⟩ := asJson_object hv
      obtain ⟨members', hmembers'⟩ := asJsonFields_thinned es h hmembers []
      exact ⟨.object members', by rw [Document.asJson, if_neg hroom, hmembers']; rfl⟩
  | .null, _, h, _, v, hv | .bool _, _, h, _, v, hv | .number _, _, h, _, v, hv
  | .string _, _, h, _, v, hv | .nameless _, _, h, _, v, hv | .broken, _, h, _, v, hv => by
    cases h
    exact ⟨v, hv⟩

theorem asJsonItems_thinned : (ds : List Document) → {ds' : List Document} →
    List.Forall₂ Thinned ds ds' → ∀ {room : Nat} {vs : List Json},
    asJsonItems room ds = .ok vs → ∃ vs', asJsonItems room ds' = .ok vs'
  | [], _, h, room, vs, hvs => by
    cases h
    exact ⟨vs, hvs⟩
  | d :: ds, _, h, room, vs, hvs => by
    cases h with
    | cons hd hds =>
      rw [asJsonItems] at hvs
      obtain ⟨v, hv, hvs⟩ := bind_eq_ok_iff.1 hvs
      obtain ⟨rest, hrest, -⟩ := bind_eq_ok_iff.1 hvs
      obtain ⟨v', hv'⟩ := Thinned.asJson d hd hv
      obtain ⟨rest', hrest'⟩ := asJsonItems_thinned ds hds hrest
      exact ⟨v' :: rest', by rw [asJsonItems, hv', hrest']; rfl⟩

theorem asJsonFields_thinned : (es : List (Option String × Document)) →
    {es' : List (Option String × Document)} → Entries (fun _ => Thinned) es es' →
    ∀ {room : Nat} {start members : Members}, asJsonFields room es start = .ok members →
    ∀ start' : Members, ∃ members', asJsonFields room es' start' = .ok members'
  | [], _, h, room, start, members, _, start' => by
    cases h
    exact ⟨start', rfl⟩
  | (name, d) :: es, _, h, room, start, members, hmembers, start' => by
    cases h with
    | @kept name _ d' _ es' hd hes =>
      rw [asJsonFields] at hmembers
      obtain ⟨v, hv, hmembers⟩ := bind_eq_ok_iff.1 hmembers
      obtain ⟨v', hv'⟩ := Thinned.asJson d hd hv
      obtain ⟨members', hmembers'⟩ := asJsonFields_thinned es hes hmembers (start'.insert name v')
      exact ⟨members', by rw [asJsonFields, hv']; exact hmembers'⟩
    | dropped hes =>
      rw [asJsonFields] at hmembers
      exact asJsonFields_thinned es hes hmembers start'

end

/-! ## Lists -/

theorem mapM_rewritten {α : Type} {rel : Document → Document → Prop}
    {f : Document → Except DecodeFault α} (hf : ∀ d d' a, rel d d' → f d = .ok a → f d' = .ok a)
    {ds ds' : List Document} (h : List.Forall₂ rel ds ds') {values : List α}
    (hread : ds.mapM f = .ok values) : ds'.mapM f = .ok values := by
  induction h generalizing values with
  | nil => exact hread
  | @cons d d' ds ds' hd _ ih =>
    rw [List.mapM_cons] at hread ⊢
    obtain ⟨a, ha, hread⟩ := bind_eq_ok_iff.1 hread
    obtain ⟨rest, hrest, hread⟩ := bind_eq_ok_iff.1 hread
    rw [hf d d' a hd ha, ih hrest]
    exact hread

/-- **Items that are read alike make the same list.** -/
theorem asList_rewritten {α : Type} {rel : Document → Document → Prop}
    {f : Nat → Document → Except DecodeFault α}
    (hf : ∀ room d d' a, rel d d' → f room d = .ok a → f room d' = .ok a) {ds ds' : List Document}
    {closed : Bool} (h : List.Forall₂ rel ds ds') {room : Nat} {values : List α}
    (hread : (Document.array ds closed).asList f room = .ok values) :
    (Document.array ds' closed).asList f room = .ok values := by
  rw [asList] at hread ⊢
  split at hread
  · cases hread
  · rename_i hroom
    obtain ⟨values, hvalues, hread⟩ := bind_eq_ok_iff.1 hread
    rw [if_neg hroom, mapM_rewritten (hf (room - 1)) h hvalues]
    exact hread

/-! ## Records -/

/-- What the member of a name may be written as instead. -/
structure Form where
  name : String
  rel : Document → Document → Prop

/-- Members without a form of their own may lose null members. -/
def Form.relOf (forms : List Form) (name : String) : Document → Document → Prop :=
  match forms.find? (·.name == name) with
  | some g => g.rel
  | none => Thinned

/-- The members of a record in their order, some of the last ones left out in both. -/
inductive Placed : List Form → List Document → List Document → Prop
  | nil {forms : List Form} : Placed forms [] []
  | cons {g : Form} {forms : List Form} {d d' : Document} {ds ds' : List Document} (hd : g.rel d d')
      (hds : Placed forms ds ds') : Placed (g :: forms) (d :: ds) (d' :: ds')

/-- A record in two forms, which differ in any of its members. -/
inductive Rewritten (forms : List Form) : Document → Document → Prop
  | same (d : Document) : Rewritten forms d d
  | object {es es' : List (Option String × Document)} {closed : Bool}
      (h : Entries (Form.relOf forms) es es') :
      Rewritten forms (.object es closed) (.object es' closed)
  | array {ds ds' : List Document} {closed : Bool} (h : Placed forms ds ds') :
      Rewritten forms (.array ds closed) (.array ds' closed)

variable {σ : Type} {r : σ → σ → Prop}

/-- The field reads both forms of its member alike into related drafts, and null into one that is
related as if it had not been there. -/
structure Field.Follows (r : σ → σ → Prop) (f : Field σ) (g : Form) : Prop where
  name : f.name = g.name
  optional : f.required = false
  isSet : ∀ e e', r e e' → f.isSet e = false → f.isSet e' = false
  read : ∀ room d d' e e' draft, g.rel d d' → r e e' → f.read room d e = .ok draft →
    ∃ draft', f.read room d' e' = .ok draft' ∧ r draft draft'
  null : ∀ room e e' draft, r e e' → f.isSet e = false → f.read room .null e = .ok draft →
    r draft e'

variable {fields : List (Field σ)} {forms : List Form}

/-- A field and the form of its member are found under the same name. -/
theorem find?_follows (h : List.Forall₂ (Field.Follows r) fields forms) (name : String) :
    fields.find? (·.name == name) = none ∧ forms.find? (·.name == name) = none ∨
      ∃ f g, fields.find? (·.name == name) = some f ∧ forms.find? (·.name == name) = some g ∧
        f.Follows r g := by
  induction h with
  | nil => exact .inl ⟨rfl, rfl⟩
  | @cons f g fields forms hf _ ih =>
    by_cases hname : g.name = name
    · exact .inr ⟨f, g, by simp [hf.name, hname], by simp [hname], hf⟩
    · have hne : (g.name == name) = false := by simpa using hname
      simpa only [List.find?_cons, hf.name, hne] using ih

theorem readNamed_rewritten (hfields : List.Forall₂ (Field.Follows r) fields forms) {room : Nat}
    {es es' : List (Option String × Document)} (h : Entries (Form.relOf forms) es es')
    {e e' draft : σ} (he : r e e') (hread : readNamed fields room es e = .ok draft) :
    ∃ draft', readNamed fields room es' e' = .ok draft' ∧ r draft draft' := by
  -- Induction on how the members relate: a member is kept in some form, or it was null and dropped.
  induction h generalizing e e' with
  | nil =>
    cases hread
    exact ⟨e', rfl, he⟩
  | @kept name d d' es es' hd _ ih =>
    rw [readNamed] at hread
    rcases find?_follows hfields name with ⟨hnone, hform⟩ | ⟨f, g, hsome, hform, hf⟩
    · rw [Form.relOf, hform] at hd
      simp only [hnone] at hread
      simp only [readNamed, hnone, Thinned.isWhole hd]
      split at hread
      · rename_i hwhole
        rw [if_pos hwhole]
        exact ih he hread
      · cases hread
    · rw [Form.relOf, hform] at hd
      simp only [hsome] at hread
      split at hread
      · cases hread
      · rename_i hset
        have hset' : f.isSet e' = false := hf.isSet e e' he (by simpa using hset)
        obtain ⟨e₁, hdraft, hread⟩ := bind_eq_ok_iff.1 hread
        obtain ⟨e₁', hdraft', he₁⟩ := hf.read room d d' e e' e₁ hd he hdraft
        obtain ⟨draft', hdraft'', hrel⟩ := ih he₁ hread
        refine ⟨draft', ?_, hrel⟩
        simp only [readNamed, hsome, hset', hdraft', Bool.false_eq_true, if_false]
        exact hdraft''
  | @dropped name es es' _ ih =>
    rw [readNamed] at hread
    rcases find?_follows hfields name with ⟨hnone, -⟩ | ⟨f, g, hsome, -, hf⟩
    · simp only [hnone] at hread
      exact ih he hread
    · simp only [hsome] at hread
      split at hread
      · cases hread
      · rename_i hset
        obtain ⟨e₁, hdraft, hread⟩ := bind_eq_ok_iff.1 hread
        exact ih (hf.null room e e' e₁ he (by simpa using hset) hdraft) hread

theorem readPositional_rewritten (hfields : List.Forall₂ (Field.Follows r) fields forms)
    {wanted : String} {room n : Nat} {closed : Bool} {ds ds' : List Document}
    (h : Placed forms ds ds') {e e' draft : σ} (he : r e e')
    (hread : readPositional wanted room closed fields n ds e = .ok draft) :
    ∃ draft', readPositional wanted room closed fields n ds' e' = .ok draft' ∧ r draft draft' := by
  -- Induction on the fields, each of which takes one item as long as there is one.
  induction hfields generalizing n ds ds' e e' with
  | nil =>
    cases h
    rw [readPositional] at hread ⊢
    split at hread
    · rename_i hclosed
      cases hread
      exact ⟨e', if_pos hclosed, he⟩
    · cases hread
  | @cons f g fields forms hf _ ih =>
    cases h with
    | nil =>
      rw [readPositional] at hread ⊢
      split at hread
      · cases hread
      · rename_i hclosed
        rw [hf.optional] at hread ⊢
        rw [if_neg hclosed]
        exact ih .nil he hread
    | @cons _ _ d d' ds ds' hd hds =>
      rw [readPositional] at hread ⊢
      obtain ⟨e₁, hdraft, hread⟩ := bind_eq_ok_iff.1 hread
      obtain ⟨e₁', hdraft', he₁⟩ := hf.read room d d' e e' e₁ hd he hdraft
      obtain ⟨draft', hdraft'', hrel⟩ := ih hds he₁ hread
      exact ⟨draft', by rw [hdraft']; exact hdraft'', hrel⟩

/-- **A record in two forms is collected into related drafts.** -/
theorem asRecord_rewritten (hfields : List.Forall₂ (Field.Follows r) fields forms)
    (hrefl : ∀ e, r e e) {name : String} {empty draft : σ} {room : Nat} {d d' : Document}
    (h : Rewritten forms d d') (hread : d.asRecord name fields empty room = .ok draft) :
    ∃ draft', d'.asRecord name fields empty room = .ok draft' ∧ r draft draft' := by
  have hoptional : ∀ f ∈ fields, f.required = false := by
    clear hread h
    induction hfields with
    | nil => exact nofun
    | cons hf _ ih => exact List.forall_mem_cons.2 ⟨hf.optional, ih⟩
  cases h with
  | same => exact ⟨draft, hread, hrefl draft⟩
  | @object es es' closed hes =>
    rw [asRecord] at hread ⊢
    split at hread
    · cases hread
    · rename_i hroom
      -- No field is required, so nothing can be missing from either draft.
      have hmissing (e : σ) : (fields.find? fun f => f.required && !f.isSet e) = none := by
        rw [List.find?_eq_none]
        intro f hf
        simp [hoptional f hf]
      obtain ⟨e, hdraft, hread⟩ := bind_eq_ok_iff.1 hread
      obtain ⟨e', hdraft', hrel⟩ := readNamed_rewritten hfields hes (hrefl empty) hdraft
      rw [if_neg hroom, hdraft']
      cases closed with
      | false => cases hread
      | true =>
        simp only [bind, Except.bind, hmissing, Bool.not_true, Bool.false_eq_true, if_false]
          at hread ⊢
        cases hread
        exact ⟨e', rfl, hrel⟩
  | array hds =>
    rw [asRecord] at hread ⊢
    split at hread
    · cases hread
    · rename_i hroom
      rw [if_neg hroom]
      exact readPositional_rewritten hfields hds (hrefl empty) hread

/-- What related drafts make alike is read alike. -/
theorem map_asRecord_rewritten {α : Type} (hfields : List.Forall₂ (Field.Follows r) fields forms)
    (hrefl : ∀ e, r e e) {make : σ → α} (hmake : ∀ e e', r e e' → make e' = make e) {name : String}
    {empty : σ} {room : Nat} {d d' : Document} {a : α} (h : Rewritten forms d d')
    (hread : (d.asRecord name fields empty room).map make = .ok a) :
    (d'.asRecord name fields empty room).map make = .ok a := by
  obtain ⟨e, hdraft, rfl⟩ := map_eq_ok_iff.1 hread
  obtain ⟨e', hdraft', hrel⟩ := asRecord_rewritten hfields hrefl h hdraft
  rw [hdraft', Except.map, hmake e e' hrel]

end GridQuery.Document
