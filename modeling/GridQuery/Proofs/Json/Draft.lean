import GridQuery.Json.Decode

/-!
# Records under way

A record is collected field by field from an empty draft, in the order of the text. A property that
the empty draft has and that the reading of every field keeps is one that the record has.

Main result: `Document.asRecord_keeps`.
-/

namespace GridQuery

namespace Document

variable {σ : Type} {fields : List (Field σ)} {p : σ → Prop}

/-- The field keeps the property of drafts. -/
def Field.Keeps (p : σ → Prop) (f : Field σ) : Prop :=
  ∀ room doc e e', p e → f.read room doc e = .ok e' → p e'

theorem readNamed_keeps (hfields : ∀ f ∈ fields, f.Keeps p) {room : Nat}
    {entries : List (Option String × Document)} {e draft : σ} (he : p e)
    (h : readNamed fields room entries e = .ok draft) : p draft := by
  -- Induction on the members; those that no field is for leave the draft alone.
  induction entries generalizing e with
  | nil =>
    cases h
    exact he
  | cons entry entries ih =>
    obtain ⟨name, doc⟩ := entry
    cases name with
    | none => cases h
    | some name =>
      rw [readNamed] at h
      split at h
      · split at h
        · exact ih he h
        · cases h
      · rename_i f hf
        split at h
        · cases h
        · cases hread : f.read room doc e with
          | error fault =>
            rw [hread] at h
            cases h
          | ok e' =>
            rw [hread] at h
            exact ih (hfields f (List.mem_of_find?_eq_some hf) _ _ _ _ he hread) h

theorem readPositional_keeps (hfields : ∀ f ∈ fields, f.Keeps p) {wanted : String} {room n : Nat}
    {closed : Bool} {items : List Document} {e draft : σ} (he : p e)
    (h : readPositional wanted room closed fields n items e = .ok draft) : p draft := by
  induction fields generalizing n items e with
  | nil =>
    cases items with
    | nil =>
      rw [readPositional] at h
      split at h
      · cases h
        exact he
      · cases h
    | cons => cases h
  | cons f fields ih =>
    rw [List.forall_mem_cons] at hfields
    cases items with
    | nil =>
      rw [readPositional] at h
      split at h
      · cases h
      · split at h
        · cases h
        · exact ih hfields.2 he h
    | cons doc items =>
      rw [readPositional] at h
      cases hread : f.read room doc e with
      | error fault =>
        rw [hread] at h
        cases h
      | ok e' =>
        rw [hread] at h
        exact ih hfields.2 (hfields.1 _ _ _ _ he hread) h

/-- **What every field keeps is kept until the record is collected.** -/
theorem asRecord_keeps (hfields : ∀ f ∈ fields, f.Keeps p) {name : String} {empty draft : σ}
    {room : Nat} {doc : Document} (hempty : p empty)
    (h : doc.asRecord name fields empty room = .ok draft) : p draft := by
  unfold asRecord at h
  split at h
  · split at h
    · cases h
    · cases hread : readNamed fields (room - 1) _ empty with
      | error fault =>
        rw [hread] at h
        cases h
      | ok e =>
        rw [hread] at h
        have he := readNamed_keeps hfields hempty hread
        change (if _ then _ else _) = _ at h
        split at h
        · cases h
        · split at h
          · cases h
          · cases h
            exact he
  · split at h
    · cases h
    · exact readPositional_keeps hfields hempty h
  · cases h
  · cases h

end Document

end GridQuery
