import GridQuery.Sql.Predicate
import Mathlib.Data.List.Chain

/-!
# Predicates with their values laid aside

A stencil is a condition whose values lie in a list of their own; its parts are text, and marks
where values belong. Nothing in its form says that there are as many marks as values.

A predicate that is built step by step has a stencil that is built by the same steps (`Built`), and
laying values aside goes through every step, so that the two stay one condition
(`Built.stencil_eq`). The invariant of the steps is `Stencil.Sound`: there are as many marks as
values, and no two texts stand side by side, since text is pushed onto text and appending pushes
part by part. It says all that can be said of what is built.

Main result: `Stencil.exists_built_iff`.
-/

namespace GridQuery

/-! ## Stencils -/

/-- Text, or the mark of a value. -/
inductive Part where
  | text (sql : String)
  | mark
deriving DecidableEq

/-- What is left of a piece when its value is laid aside. -/
def Piece.part : Piece → Part
  | .text sql => .text sql
  | .bound _ => .mark

namespace Part

def isText : Part → Bool
  | .text _ => true
  | .mark => false

/-- The parts are not both text. -/
def Apart (x y : Part) : Prop := ¬ (x.isText ∧ y.isText)

end Part

/-- A condition in SQL with its values laid aside. -/
structure Stencil where
  parts : List Part
  values : List Value
deriving DecidableEq

namespace Stencil

def empty : Stencil := ⟨[], []⟩

def isEmpty (m : Stencil) : Bool := m.parts.isEmpty

/-- Appends text, to the last part if that is text too. -/
def pushText (sql : String) : List Part → List Part
  | [] => [.text sql]
  | [.text last] => [.text (last ++ sql)]
  | x :: rest => x :: pushText sql rest

def push (m : Stencil) (sql : String) : Stencil := { m with parts := pushText sql m.parts }

def bind (m : Stencil) (v : Value) : Stencil := ⟨m.parts ++ [.mark], m.values ++ [v]⟩

def pushPart (xs : List Part) : Part → List Part
  | .text sql => pushText sql xs
  | .mark => xs ++ [.mark]

/-- Appends the parts of another stencil one by one, and its values. -/
def append (m n : Stencil) : Stencil := ⟨n.parts.foldl pushPart m.parts, m.values ++ n.values⟩

/-- Appends the stencils, each behind a separator. -/
def appendAll (separator : String) (m : Stencil) (ns : List Stencil) : Stencil :=
  ns.foldl (fun m n => (m.push separator).append n) m

/-- The stencils that are not empty, joined within parentheses. -/
def group (separator : String) (ms : List Stencil) : Option Stencil :=
  match ms.filter (!·.isEmpty) with
  | [] => none
  | m :: ns => some ((appendAll separator ((empty.push "(").append m) ns).push ")")

/-- The stencils that are not empty, joined by AND as they are. -/
def conjunction (ms : List Stencil) : Option Stencil :=
  match ms.filter (!·.isEmpty) with
  | [] => none
  | m :: ns => some (appendAll " AND " m ns)

end Stencil

/-! ## Building step by step -/

/-- A way to join conditions. -/
inductive Joint where
  | all
  | any
  | conjunction

namespace Joint

def predicate? : Joint → List Predicate → Option Predicate
  | .all => Predicate.all
  | .any => Predicate.any
  | .conjunction => Predicate.conjunction

def stencil? : Joint → List Stencil → Option Stencil
  | .all => Stencil.group " AND "
  | .any => Stencil.group " OR "
  | .conjunction => Stencil.conjunction

end Joint

/-- The predicate and the stencil are built by the same steps. -/
inductive Built : Predicate → Stencil → Prop
  | empty : Built .empty .empty
  | push {p : Predicate} {m : Stencil} (h : Built p m) (sql : String) :
      Built (p.push sql) (m.push sql)
  | bind {p : Predicate} {m : Stencil} (h : Built p m) (v : Value) : Built (p.bind v) (m.bind v)
  | join {p : Predicate} {m : Stencil} (j : Joint) {xs : List (Predicate × Stencil)}
      (h : ∀ x ∈ xs, Built x.1 x.2) (hp : j.predicate? (xs.map Prod.fst) = some p)
      (hm : j.stencil? (xs.map Prod.snd) = some m) : Built p m

/-! ## Laying values aside -/

namespace Predicate

/-- The predicate with its values laid aside. -/
def stencil (p : Predicate) : Stencil := ⟨p.pieces.map Piece.part, p.values⟩

theorem map_part_pushText (sql : String) (ps : List Piece) :
    (pushText sql ps).map Piece.part = Stencil.pushText sql (ps.map Piece.part) := by
  induction ps using pushText.induct with
  | case1 => rfl
  | case2 last => rfl
  | case3 x rest h ih =>
    cases x with
    | bound v => simp [pushText, Stencil.pushText, Piece.part, ih]
    | text last =>
      cases rest with
      | nil => exact absurd rfl (h last rfl)
      | cons y rest => simp [pushText, Stencil.pushText, Piece.part, ih] at ih ⊢

theorem map_part_pushPiece (p : Predicate) (x : Piece) :
    (p.pushPiece x).pieces.map Piece.part =
      Stencil.pushPart (p.pieces.map Piece.part) x.part := by
  cases x with
  | text sql => exact map_part_pushText sql p.pieces
  | bound v => simp [pushPiece, bind, Stencil.pushPart, Piece.part]

@[simp] theorem stencil_empty : empty.stencil = .empty := rfl

@[simp] theorem stencil_push (p : Predicate) (sql : String) :
    (p.push sql).stencil = p.stencil.push sql := by
  rw [stencil, values_push, push, map_part_pushText]
  rfl

@[simp] theorem stencil_bind (p : Predicate) (v : Value) :
    (p.bind v).stencil = p.stencil.bind v := by
  rw [stencil, values_bind, bind, List.map_append]
  rfl

theorem map_part_foldl (p : Predicate) (xs : List Piece) :
    (xs.foldl pushPiece p).pieces.map Piece.part =
      (xs.map Piece.part).foldl Stencil.pushPart (p.pieces.map Piece.part) := by
  induction xs generalizing p with
  | nil => rfl
  | cons x xs ih =>
    rw [List.foldl_cons, ih, map_part_pushPiece]
    rfl

@[simp] theorem stencil_append (p q : Predicate) :
    (p.append q).stencil = p.stencil.append q.stencil := by
  rw [stencil, values_append, append, map_part_foldl]
  rfl

@[simp] theorem isEmpty_stencil (p : Predicate) : p.stencil.isEmpty = p.isEmpty := by
  simp [Stencil.isEmpty, isEmpty, stencil]

theorem stencil_appendAll (sep : String) (p : Predicate) (qs : List Predicate) :
    (appendAll sep p qs).stencil = Stencil.appendAll sep p.stencil (qs.map stencil) := by
  induction qs generalizing p with
  | nil => rfl
  | cons q qs ih =>
    show (appendAll sep ((p.push sep).append q) qs).stencil = _
    rw [ih, stencil_append, stencil_push]
    rfl

theorem stencil_filled (ps : List Predicate) :
    (ps.map stencil).filter (!·.isEmpty) = (ps.filter (!·.isEmpty)).map stencil := by
  rw [List.filter_map]
  congr 1
  exact List.filter_congr fun p _ => by simp

theorem stencil_group (sep : String) (ps : List Predicate) :
    (group sep ps).map stencil = Stencil.group sep (ps.map stencil) := by
  unfold group Stencil.group
  rw [stencil_filled]
  cases ps.filter (!·.isEmpty) with
  | nil => rfl
  | cons p qs => simp [stencil_appendAll]

theorem stencil_conjunction (ps : List Predicate) :
    (conjunction ps).map stencil = Stencil.conjunction (ps.map stencil) := by
  unfold conjunction Stencil.conjunction
  rw [stencil_filled]
  cases ps.filter (!·.isEmpty) with
  | nil => rfl
  | cons p qs => simp [stencil_appendAll]

/-- Joined predicates have the stencil of their stencils joined. -/
theorem stencil_join (j : Joint) {xs : List (Predicate × Stencil)}
    (h : ∀ x ∈ xs, x.1.stencil = x.2) :
    (j.predicate? (xs.map Prod.fst)).map stencil = j.stencil? (xs.map Prod.snd) := by
  have hxs : xs.map Prod.snd = (xs.map Prod.fst).map stencil := by
    rw [List.map_map]
    exact List.map_congr_left fun x hx => (h x hx).symm
  rw [hxs]
  cases j with
  | all => exact stencil_group _ _
  | any => exact stencil_group _ _
  | conjunction => exact stencil_conjunction _

end Predicate

namespace Built

variable {p : Predicate} {m : Stencil}

/-- **The same steps build a predicate and its stencil.** -/
theorem stencil_eq (h : Built p m) : p.stencil = m := by
  induction h with
  | empty => rfl
  | push h sql ih => rw [Predicate.stencil_push, ih]
  | bind h v ih => rw [Predicate.stencil_bind, ih]
  | join j h hp hm ih =>
    have hjoin := Predicate.stencil_join j ih
    rw [hp, hm] at hjoin
    exact Option.some.inj hjoin

/-- Joining is a step in both forms, or in neither. -/
theorem joined (j : Joint) {xs : List (Predicate × Stencil)} (h : ∀ x ∈ xs, Built x.1 x.2) :
    Option.Rel Built (j.predicate? (xs.map Prod.fst)) (j.stencil? (xs.map Prod.snd)) := by
  have hjoin := Predicate.stencil_join j fun x hx => (h x hx).stencil_eq
  rw [← hjoin]
  cases hp : j.predicate? (xs.map Prod.fst) with
  | none => exact .none
  | some p => exact .some (.join j h hp (by rw [← hjoin, hp]; rfl))

end Built

/-! ## Parts -/

namespace Stencil

theorem pushText_text (sql last : String) (xs : List Part) :
    pushText sql (xs ++ [.text last]) = xs ++ [.text (last ++ sql)] := by
  induction xs with
  | nil => rfl
  | cons x xs ih => cases xs <;> simp_all [pushText]

theorem pushText_mark (sql : String) (xs : List Part) :
    pushText sql (xs ++ [.mark]) = xs ++ [.mark, .text sql] := by
  induction xs with
  | nil => rfl
  | cons x xs ih => cases xs <;> simp_all [pushText]

theorem count_pushText (sql : String) (xs : List Part) :
    (pushText sql xs).count .mark = xs.count .mark := by
  obtain rfl | ⟨init, last, rfl⟩ := List.eq_nil_or_concat' xs
  · rfl
  · cases last with
    | text last => simp [pushText_text]
    | mark => simp [pushText_mark]

theorem apart_mark {xs : List Part} (h : xs.IsChain Part.Apart) :
    (xs ++ [Part.mark]).IsChain Part.Apart := by
  rw [List.isChain_append]
  exact ⟨h, .singleton _, by simp [Part.Apart, Part.isText]⟩

theorem apart_pushText (sql : String) {xs : List Part} (h : xs.IsChain Part.Apart) :
    (pushText sql xs).IsChain Part.Apart := by
  obtain rfl | ⟨init, last, rfl⟩ := List.eq_nil_or_concat' xs
  · exact .singleton _
  · cases last with
    | text last =>
      rw [pushText_text]
      rw [List.isChain_append] at h ⊢
      exact ⟨h.1, .singleton _, by simpa [Part.Apart, Part.isText] using h.2.2⟩
    | mark =>
      rw [pushText_mark]
      have hboth : [Part.mark, .text sql].IsChain Part.Apart := by simp [Part.Apart, Part.isText]
      rw [List.isChain_append] at h ⊢
      exact ⟨h.1, hboth, by simp [Part.Apart, Part.isText]⟩

/-- Text that stands apart from what is before it is a part of its own. -/
theorem pushText_of_apart {sql : String} {xs : List Part}
    (h : (xs ++ [Part.text sql]).IsChain Part.Apart) : pushText sql xs = xs ++ [.text sql] := by
  obtain rfl | ⟨init, last, rfl⟩ := List.eq_nil_or_concat' xs
  · rfl
  · cases last with
    | text last =>
      have hlast := (List.isChain_append.1 h).2.2 (.text last) (by simp) (.text sql) rfl
      exact absurd ⟨rfl, rfl⟩ hlast
    | mark =>
      rw [pushText_mark, List.append_assoc]
      rfl

theorem count_foldl (xs ys : List Part) :
    (ys.foldl pushPart xs).count .mark = xs.count .mark + ys.count .mark := by
  induction ys generalizing xs with
  | nil => rfl
  | cons y ys ih =>
    rw [List.foldl_cons, ih]
    cases y with
    | text sql => simp [pushPart, count_pushText]
    | mark =>
      simp [pushPart]
      omega

theorem apart_foldl {xs : List Part} (h : xs.IsChain Part.Apart) (ys : List Part) :
    (ys.foldl pushPart xs).IsChain Part.Apart := by
  induction ys generalizing xs with
  | nil => exact h
  | cons y ys ih =>
    rw [List.foldl_cons]
    apply ih
    cases y with
    | text sql => exact apart_pushText sql h
    | mark => exact apart_mark h

/-! ## Sound stencils -/

/-- There are as many marks as values, and no two texts stand side by side. -/
structure Sound (m : Stencil) : Prop where
  marks : m.parts.count .mark = m.values.length
  apart : m.parts.IsChain Part.Apart

namespace Sound

variable {m n : Stencil} {ms : List Stencil} {sep : String}

theorem empty : Stencil.empty.Sound := ⟨rfl, .nil⟩

theorem push (h : m.Sound) (sql : String) : (m.push sql).Sound where
  marks := (count_pushText sql m.parts).trans h.marks
  apart := apart_pushText sql h.apart

theorem bind (h : m.Sound) (v : Value) : (m.bind v).Sound where
  marks := by simp [Stencil.bind, h.marks]
  apart := apart_mark h.apart

theorem append (hm : m.Sound) (hn : n.Sound) : (m.append n).Sound where
  marks := by
    show (n.parts.foldl pushPart m.parts).count .mark = (m.values ++ n.values).length
    rw [count_foldl, List.length_append, hm.marks, hn.marks]
  apart := apart_foldl hm.apart n.parts

theorem appendAll (hm : m.Sound) (h : ∀ n ∈ ms, n.Sound) : (appendAll sep m ms).Sound := by
  induction ms generalizing m with
  | nil => exact hm
  | cons n ms ih =>
    have hn : n.Sound := h n List.mem_cons_self
    exact ih ((hm.push sep).append hn) fun x hx => h x (List.mem_cons_of_mem n hx)

theorem filled (h : ∀ n ∈ ms, n.Sound) : ∀ n ∈ ms.filter (!·.isEmpty), n.Sound :=
  fun n hn => h n (List.mem_filter.1 hn).1

theorem group (h : ∀ n ∈ ms, n.Sound) (hm : group sep ms = some m) : m.Sound := by
  have hfilled := filled h
  unfold Stencil.group at hm
  split at hm
  · cases hm
  · next n ns hms =>
    cases hm
    rw [hms] at hfilled
    obtain ⟨hn, hns⟩ := List.forall_mem_cons.1 hfilled
    exact (((Sound.empty.push "(").append hn).appendAll hns).push ")"

theorem conjunction (h : ∀ n ∈ ms, n.Sound) (hm : conjunction ms = some m) : m.Sound := by
  have hfilled := filled h
  unfold Stencil.conjunction at hm
  split at hm
  · cases hm
  · next n ns hms =>
    cases hm
    rw [hms] at hfilled
    obtain ⟨hn, hns⟩ := List.forall_mem_cons.1 hfilled
    exact hn.appendAll hns

end Sound

end Stencil

/-- **What is built step by step is sound.** -/
theorem Built.sound {p : Predicate} {m : Stencil} (h : Built p m) : m.Sound := by
  induction h with
  | empty => exact .empty
  | push h sql ih => exact ih.push sql
  | bind h v ih => exact ih.bind v
  | join j h hp hm ih =>
    have hall := List.forall_mem_map.2 ih
    cases j with
    | all => exact .group hall hm
    | any => exact .group hall hm
    | conjunction => exact .conjunction hall hm

/-- **Exactly the sound stencils can be built.** -/
theorem Stencil.exists_built_iff {m : Stencil} : (∃ p, Built p m) ↔ m.Sound := by
  constructor
  · rintro ⟨p, h⟩
    exact h.sound
  · obtain ⟨xs, vs⟩ := m
    rintro ⟨hmarks, hapart⟩
    -- The last step is the last part.
    induction xs using List.reverseRecOn generalizing vs with
    | nil =>
      obtain rfl := List.length_eq_zero_iff.1 hmarks.symm
      exact ⟨_, .empty⟩
    | append_singleton xs x ih =>
      have hinit := (List.isChain_append.1 hapart).1
      cases x with
      | text sql =>
        obtain ⟨p, hp⟩ := ih vs (by simpa using hmarks) hinit
        have hpush := hp.push sql
        rw [Stencil.push, pushText_of_apart hapart] at hpush
        exact ⟨_, hpush⟩
      | mark =>
        obtain rfl | ⟨vs, v, rfl⟩ := List.eq_nil_or_concat' vs
        · simp at hmarks
        · obtain ⟨p, hp⟩ := ih vs (by simpa using hmarks) hinit
          exact ⟨_, hp.bind v⟩

end GridQuery
