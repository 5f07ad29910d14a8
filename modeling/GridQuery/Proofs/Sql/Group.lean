import GridQuery.Proofs.Sql.Formula

/-!
# Groups of conditions

A WHERE consists of groups of conditions. Each group has one connective between its members and
parentheses around them, the groups themselves are joined by AND, and groups without members
are left out.

Main results: `Formula.read_groups`, what such a text is read as, and `Formula.truth_ofGroups`,
when it holds: every group that has members must, by its own connective.
-/

namespace GridQuery.Sql

/-! ## Truth -/

namespace Connective

/-- The truth of conditions joined by the connective; a group without members asks for nothing. -/
def holds : Connective → List Bool → Bool
  | .and, v => v.all id
  | .or, v => v.isEmpty || v.any id

end Connective

namespace Formula

/-- The atoms of a condition that may be missing. -/
def leaves (o : Option Formula) : List (List (Token String)) := o.elim [] atoms

/-- The truth of a condition that may be missing. -/
def truth (o : Option Formula) (v : List Bool) : Bool := o.elim true (·.holds v)

/-- A formula looks at no more truth values than it has atoms. -/
theorem holds_append {f : Formula} {v : List Bool} (h : f.atoms.length ≤ v.length)
    (w : List Bool) : f.holds (v ++ w) = f.holds v := by
  induction f generalizing v with
  | atom ts =>
    cases v with
    | nil => simp [atoms] at h
    | cons b v => rfl
  | and f g hf hg =>
    rw [atoms, List.length_append] at h
    have hdrop : g.atoms.length ≤ (v.drop f.atoms.length).length := by
      rw [List.length_drop]
      omega
    rw [holds, holds, hf (by omega), List.drop_append_of_le_length (by omega), hg hdrop]
  | or f g hf hg =>
    rw [atoms, List.length_append] at h
    have hdrop : g.atoms.length ≤ (v.drop f.atoms.length).length := by
      rw [List.length_drop]
      omega
    rw [holds, holds, hf (by omega), List.drop_append_of_le_length (by omega), hg hdrop]

theorem leaves_merge (c : Connective) (o o' : Option Formula) :
    leaves (Option.merge c.op o o') = leaves o ++ leaves o' := by
  cases c <;> cases o <;> cases o' <;> simp [leaves, Connective.op, atoms]

theorem leaves_eq_nil {o : Option Formula} : leaves o = [] ↔ o = none := by
  cases o with
  | none => simp [leaves]
  | some f =>
    have hne : f.atoms ≠ [] := by
      induction f with
      | atom ts => simp [atoms]
      | and f g hf _ => simp [atoms, hf]
      | or f g hf _ => simp [atoms, hf]
    simp [leaves, hne]

theorem truth_merge {o o' : Option Formula} {v v' : List Bool} (h : v.length = (leaves o).length)
    (h' : v'.length = (leaves o').length) :
    truth (Option.merge .and o o') (v ++ v') = (truth o v && truth o' v') := by
  cases o with
  | none =>
    rw [List.length_eq_zero_iff.1 h]
    simp [truth]
  | some f =>
    cases o' with
    | none =>
      rw [List.length_eq_zero_iff.1 h']
      simp [truth]
    | some g =>
      have hf : v.length = f.atoms.length := h
      show (f.holds (v ++ v') && g.holds ((v ++ v').drop f.atoms.length)) = _
      rw [holds_append hf.ge, ← hf, List.drop_left]
      rfl

/-! ## One group -/

/-- What the members of a group say together. -/
def ofGroup (c : Connective) (tss : List (List (Token String))) : Option Formula :=
  join c.op (tss.map .atom)

theorem ofGroup_cons (c : Connective) (ts : List (Token String))
    (tss : List (List (Token String))) :
    ofGroup c (ts :: tss) = Option.merge c.op (some (.atom ts)) (ofGroup c tss) := rfl

theorem leaves_ofGroup (c : Connective) (tss : List (List (Token String))) :
    leaves (ofGroup c tss) = tss := by
  induction tss with
  | nil => rfl
  | cons ts tss ih =>
    rw [ofGroup_cons, leaves_merge, ih]
    rfl

theorem ofGroup_eq_none {c : Connective} {tss : List (List (Token String))} :
    ofGroup c tss = none ↔ tss = [] := by
  rw [← leaves_eq_nil, leaves_ofGroup]

theorem truth_ofGroup (c : Connective) {tss : List (List (Token String))} {v : List Bool}
    (h : v.length = tss.length) : truth (ofGroup c tss) v = c.holds v := by
  induction tss generalizing v with
  | nil =>
    rw [List.length_eq_zero_iff.1 h]
    cases c <;> rfl
  | cons ts tss ih =>
    cases v with
    | nil => simp at h
    | cons b v =>
      have hv : v.length = tss.length := by simpa using h
      specialize ih hv
      -- A conjunction with an empty rest is true, but a disjunction with one is not empty itself:
      -- whether the rest is empty matters for OR only.
      cases c with
      | and =>
        have hmerge : truth (Option.merge .and (some (.atom ts)) (ofGroup .and tss)) ([b] ++ v) =
            (b && truth (ofGroup .and tss) v) :=
          truth_merge rfl (by rw [leaves_ofGroup, hv])
        rw [ih] at hmerge
        exact hmerge
      | or =>
        cases htss : ofGroup .or tss with
        | none =>
          have hnil : tss = [] := ofGroup_eq_none.1 htss
          rw [hnil] at hv
          rw [ofGroup_cons, htss, List.length_eq_zero_iff.1 hv]
          simp [truth, holds, Connective.holds]
        | some f =>
          have hne : v ≠ [] := by
            rintro rfl
            rw [List.length_eq_zero_iff.1 hv.symm] at htss
            cases htss
          rw [htss] at ih
          have hf : f.holds v = v.any id := by
            rw [show f.holds v = truth (some f) v from rfl, ih]
            simp [Connective.holds, hne]
          rw [ofGroup_cons, htss]
          show (b || f.holds v) = _
          rw [hf]
          rfl

/-! ## Groups -/

/-- What groups say together. -/
def ofGroups (gs : List (Connective × List (List (Token String)))) : Option Formula :=
  join .and (gs.filterMap fun g => ofGroup g.1 g.2)

theorem ofGroups_cons (g : Connective × List (List (Token String)))
    (gs : List (Connective × List (List (Token String)))) :
    ofGroups (g :: gs) = Option.merge .and (ofGroup g.1 g.2) (ofGroups gs) := by
  cases h : ofGroup g.1 g.2 with
  | none => simp [ofGroups, h]
  | some f => simp [ofGroups, h, join]

theorem leaves_ofGroups (gs : List (Connective × List (List (Token String)))) :
    leaves (ofGroups gs) = gs.flatMap (·.2) := by
  induction gs with
  | nil => rfl
  | cons g gs ih =>
    have hmerge : leaves (Option.merge .and (ofGroup g.1 g.2) (ofGroups gs)) =
        leaves (ofGroup g.1 g.2) ++ leaves (ofGroups gs) := leaves_merge .and _ _
    rw [ofGroups_cons, hmerge, leaves_ofGroup, ih, List.flatMap_cons]

/-- **Groups hold together when each of them holds.** -/
theorem truth_ofGroups {gs : List (Connective × List (List (Token String)))}
    {vs : List (List Bool)} (h : List.Forall₂ (fun g v => v.length = g.2.length) gs vs) :
    truth (ofGroups gs) vs.flatten = (List.zipWith (fun g v => g.1.holds v) gs vs).all id := by
  induction h with
  | nil => rfl
  | @cons g v gs vs hg hgs ih =>
    have hv : v.length = (leaves (ofGroup g.1 g.2)).length := by rw [leaves_ofGroup, hg]
    have hvs : vs.flatten.length = (leaves (ofGroups gs)).length := by
      rw [leaves_ofGroups]
      clear ih
      induction hgs with
      | nil => rfl
      | cons hg' _ ih => simp [hg', ih]
    rw [ofGroups_cons, List.flatten_cons, truth_merge hv hvs, truth_ofGroup g.1 hg, ih]
    rfl

/-! ## Reading groups -/

theorem grouped_eq_none {w : String} {tss : List (List (Token String))} :
    grouped w tss = none ↔ tss = [] := by
  cases tss <;> simp [grouped]

/-- Groups say nothing when there is nothing to write for them. -/
theorem ofGroups_eq_none {gs : List (Connective × List (List (Token String)))} :
    ofGroups gs = none ↔ (gs.filterMap fun g => grouped g.1.word g.2) = [] := by
  simp only [ofGroups, join_eq_none, List.filterMap_eq_nil_iff, ofGroup_eq_none, grouped_eq_none]

theorem closed_grouped (c : Connective) {tss : List (List (Token String))}
    (h : ∀ ts ∈ tss, Closed ts (.atom ts)) :
    Option.Rel Closed (grouped c.word tss) (ofGroup c tss) := by
  cases hf : ofGroup c tss with
  | none =>
    rw [ofGroup_eq_none.1 hf]
    exact .none
  | some f =>
    cases tss with
    | nil => cases hf
    | cons ts tss =>
      have hatoms : List.Forall₂ Closed (ts :: tss) ((ts :: tss).map .atom) := by
        rw [List.forall₂_map_right_iff, List.forall₂_same]
        exact h
      exact .some (closed_enclosed c hatoms hf)

theorem closed_groups {gs : List (Connective × List (List (Token String)))}
    (h : ∀ g ∈ gs, ∀ ts ∈ g.2, Closed ts (.atom ts)) :
    List.Forall₂ Closed (gs.filterMap fun g => grouped g.1.word g.2)
      (gs.filterMap fun g => ofGroup g.1 g.2) := by
  induction gs with
  | nil => exact .nil
  | cons g gs ih =>
    have hg := closed_grouped g.1 (h g List.mem_cons_self)
    specialize ih fun x hx => h x (List.mem_cons_of_mem g hx)
    rw [List.filterMap_cons, List.filterMap_cons]
    generalize grouped g.1.word g.2 = ts, ofGroup g.1 g.2 = f at hg
    cases hg with
    | none => exact ih
    | some hg => exact .cons hg ih

/-- **A WHERE of groups is read as what the groups say together.** -/
theorem read_groups {gs : List (Connective × List (List (Token String)))}
    (h : ∀ g ∈ gs, ∀ ts ∈ g.2, Closed ts (.atom ts))
    (hne : (gs.filterMap fun g => grouped g.1.word g.2) ≠ []) :
    Formula.read (.sign ' ' ::
        (between "AND").intercalate (gs.filterMap fun g => grouped g.1.word g.2)) =
      ofGroups gs :=
  read_joined .and (closed_groups h) hne

end Formula

/-! ## Numbered groups -/

/-- The tokens of groups of phrases, each numbered behind those before it. -/
def numberGroups (d : Dialect) :
    Nat → List (Connective × List Phrase) → List (Connective × List (List (Token String)))
  | _, [] => []
  | k, (c, phs) :: gs => (c, numberAll d k phs) :: numberGroups d (k + places phs.flatten) gs

theorem flatMap_numberGroups (d : Dialect) (k : Nat) (gs : List (Connective × List Phrase)) :
    (numberGroups d k gs).flatMap (·.2) = numberAll d k (gs.flatMap (·.2)) := by
  induction gs generalizing k with
  | nil => rfl
  | cons g gs ih =>
    obtain ⟨c, phs⟩ := g
    rw [numberGroups, List.flatMap_cons, List.flatMap_cons, ih, numberAll_append]

theorem places_between (w : String) (phs : List Phrase) :
    places ((between w).intercalate phs) = places phs.flatten := by
  induction phs with
  | nil => rfl
  | cons ph phs ih =>
    cases phs with
    | nil => simp
    | cons ph' phs =>
      rw [List.intercalate_cons_cons, places_append, places_append, ih]
      exact (places_append ph (ph' :: phs).flatten).symm

theorem places_enclosed (w : String) (phs : List Phrase) :
    places (enclosed w phs) = places phs.flatten := by
  rw [enclosed, places_append, ← places_between w phs]
  rfl

/-- The phrase is one atom behind any number of values. -/
def Atomic (d : Dialect) (ph : Phrase) : Prop :=
  ∀ k, Closed (number d k ph) (.atom (number d k ph))

theorem closed_numberAll {d : Dialect} {phs : List Phrase} (h : ∀ ph ∈ phs, Atomic d ph) (k : Nat) :
    ∀ ts ∈ numberAll d k phs, Closed ts (.atom ts) := by
  induction phs generalizing k with
  | nil => simp
  | cons ph phs ih =>
    intro ts hts
    rcases List.mem_cons.1 hts with rfl | hts
    · exact h ph List.mem_cons_self k
    · exact ih (fun x hx => h x (List.mem_cons_of_mem ph hx)) _ ts hts

theorem closed_numberGroups {d : Dialect} {gs : List (Connective × List Phrase)}
    (h : ∀ g ∈ gs, ∀ ph ∈ g.2, Atomic d ph) (k : Nat) :
    ∀ g ∈ numberGroups d k gs, ∀ ts ∈ g.2, Closed ts (.atom ts) := by
  induction gs generalizing k with
  | nil => simp [numberGroups]
  | cons g gs ih =>
    intro g' hg'
    rcases List.mem_cons.1 hg' with rfl | hg'
    · exact closed_numberAll (h g List.mem_cons_self) k
    · exact ih (fun x hx => h x (List.mem_cons_of_mem g hx)) _ g' hg'

/-- Numbering goes into groups. -/
theorem numberAll_grouped (d : Dialect) (k : Nat) (gs : List (Connective × List Phrase)) :
    numberAll d k (gs.filterMap fun g => grouped g.1.word g.2) =
      (numberGroups d k gs).filterMap fun g => grouped g.1.word g.2 := by
  induction gs generalizing k with
  | nil => rfl
  | cons g gs ih =>
    obtain ⟨c, phs⟩ := g
    rw [numberGroups, List.filterMap_cons, List.filterMap_cons]
    cases phs with
    | nil => exact ih k
    | cons ph phs =>
      show number d k (enclosed c.word (ph :: phs)) :: numberAll d
        (k + places (enclosed c.word (ph :: phs))) _ = _
      rw [places_enclosed, ih, number_enclosed]
      rfl

end GridQuery.Sql
