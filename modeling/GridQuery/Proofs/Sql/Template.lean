import GridQuery.Proofs.Sql.Rendering

/-!
# Templates

The template of a predicate is what is left of it without its values: its text, and the places
where values are bound. Joining predicates joins their templates and puts their values one behind
the other. So the text of a predicate, behind any number of values, is that of its template, and
its values can be told without its text.

Main results: `Predicate.sqlFrom_template`, `Predicate.template_group` and
`Predicate.values_group`.
-/

namespace GridQuery

/-- The piece with a value that stands for any. -/
def Piece.template : Piece → Piece
  | .text sql => .text sql
  | .bound _ => .bound (.bool false)

namespace Predicate

/-- The predicate without its values. -/
def template (p : Predicate) : Predicate := ⟨p.pieces.map Piece.template⟩

variable {d : Dialect} {p q : Predicate} {ps : List Predicate}

/-! ## Templates -/

theorem template_pushText (sql : String) (ps : List Piece) :
    (pushText sql ps).map Piece.template = pushText sql (ps.map Piece.template) := by
  induction ps using pushText.induct with
  | case1 => rfl
  | case2 last => rfl
  | case3 x rest h ih =>
    cases x with
    | bound v => simp [pushText, Piece.template, ih]
    | text last =>
      cases rest with
      | nil => exact absurd rfl (h last rfl)
      | cons y rest => simp [pushText, Piece.template, ih] at ih ⊢

@[simp] theorem template_empty : empty.template = empty := rfl

@[simp] theorem template_push (p : Predicate) (sql : String) :
    (p.push sql).template = p.template.push sql :=
  congrArg Predicate.mk (template_pushText sql p.pieces)

@[simp] theorem template_bind (p : Predicate) (v : Value) :
    (p.bind v).template = p.template.bind (.bool false) := by
  simp [template, bind, Piece.template]

@[simp] theorem template_append (p q : Predicate) :
    (p.append q).template = p.template.append q.template := by
  obtain ⟨qs⟩ := q
  simp only [append]
  induction qs generalizing p with
  | nil => rfl
  | cons x qs ih =>
    rw [List.foldl_cons, ih]
    cases x with
    | text sql => simp [pushPiece, template, Piece.template, push, template_pushText]
    | bound v => simp [pushPiece, template, Piece.template, bind]

@[simp] theorem isEmpty_template (p : Predicate) : p.template.isEmpty = p.isEmpty := by
  simp [isEmpty, template]

theorem template_appendAll (sep : String) (p : Predicate) (qs : List Predicate) :
    (appendAll sep p qs).template = appendAll sep p.template (qs.map template) := by
  induction qs generalizing p with
  | nil => rfl
  | cons q qs ih =>
    show (appendAll sep ((p.push sep).append q) qs).template = _
    rw [ih, template_append, template_push]
    rfl

theorem template_filled (ps : List Predicate) :
    (ps.filter (!·.isEmpty)).map template = (ps.map template).filter (!·.isEmpty) := by
  rw [List.filter_map]
  congr 1
  exact List.filter_congr fun p _ => by simp

theorem template_group (sep : String) (ps : List Predicate) :
    (group sep ps).map template = group sep (ps.map template) := by
  unfold group
  rw [← template_filled]
  cases ps.filter (!·.isEmpty) with
  | nil => rfl
  | cons p qs => simp [template_appendAll]

theorem template_conjunction (ps : List Predicate) :
    (conjunction ps).map template = conjunction (ps.map template) := by
  unfold conjunction
  rw [← template_filled]
  cases ps.filter (!·.isEmpty) with
  | nil => rfl
  | cons p qs => simp [template_appendAll]

/-- **The text of a predicate is that of its template.** -/
theorem sqlFrom_template (d : Dialect) (k : Nat) (p : Predicate) :
    p.template.sqlFrom d k = p.sqlFrom d k := by
  obtain ⟨ps⟩ := p
  simp only [sqlFrom, template]
  induction ps generalizing k with
  | nil => rfl
  | cons x ps ih => cases x <;> simp [Piece.sqlFrom, Piece.template, ih]

theorem length_values_template (p : Predicate) : p.template.values.length = p.values.length := by
  obtain ⟨ps⟩ := p
  simp only [values, template]
  induction ps with
  | nil => rfl
  | cons x ps ih =>
    rw [List.map_cons, List.filterMap_cons, List.filterMap_cons]
    cases x <;> simp only [Piece.template, Piece.value?, List.length_cons, ih]

/-! ## Values -/

@[simp] theorem values_empty : empty.values = [] := rfl

theorem values_appendAll (sep : String) (p : Predicate) (qs : List Predicate) :
    (appendAll sep p qs).values = p.values ++ qs.flatMap values := by
  induction qs generalizing p with
  | nil => simp [appendAll]
  | cons q qs ih =>
    show (appendAll sep ((p.push sep).append q) qs).values = _
    rw [ih, values_append, values_push, List.flatMap_cons, List.append_assoc]

/-- A predicate that is empty has no values. -/
theorem values_filled (ps : List Predicate) :
    (ps.filter (!·.isEmpty)).flatMap values = ps.flatMap values := by
  induction ps with
  | nil => rfl
  | cons p ps ih =>
    cases h : p.isEmpty with
    | true =>
      have hnone : p.values = [] := by simp [values, List.isEmpty_iff.1 h]
      rw [List.filter_cons_of_neg (by simp [h]), ih, List.flatMap_cons, hnone, List.nil_append]
    | false => rw [List.filter_cons_of_pos (by simp [h]), List.flatMap_cons, ih, List.flatMap_cons]

theorem values_group (sep : String) (ps : List Predicate) :
    (group sep ps).toList.flatMap values = ps.flatMap values := by
  rw [← values_filled ps, group]
  cases ps.filter (!·.isEmpty) with
  | nil => rfl
  | cons p qs => simp [values_appendAll]

theorem values_conjunction (ps : List Predicate) :
    (conjunction ps).toList.flatMap values = ps.flatMap values := by
  rw [← values_filled ps, conjunction]
  cases ps.filter (!·.isEmpty) with
  | nil => rfl
  | cons p qs => simp [values_appendAll]

end Predicate

end GridQuery
