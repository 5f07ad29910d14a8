import Mathlib.Data.List.Forall2

/-!
# Traversals that may fail

A traversal succeeds when it succeeds at every member, and fails when it fails at some member.
Two computations agree when both fail with one fault or both succeed with related results
(`Agree`); traversals that agree at every member agree as a whole.

A list that is sifted gives at most one thing for each member, in its order (`Sifted`).

A computation that checks its input is known by what it lets through and by the fault of the rest
(`Checks`), and a traversal of checks by the fault of the first member that has one.
-/

namespace GridQuery

/-! ## Results -/

section Results

variable {ε α β : Type} {x : Except ε α}

theorem bind_eq_ok_iff {f : α → Except ε β} {b : β} :
    (x >>= f) = .ok b ↔ ∃ a, x = .ok a ∧ f a = .ok b := by
  cases x <;> simp [bind, Except.bind]

theorem map_eq_ok_iff {f : α → β} {b : β} : x.map f = .ok b ↔ ∃ a, x = .ok a ∧ f a = b := by
  cases x <;> simp [Except.map]

theorem eq_ok_of_toOption {a : α} (h : x.toOption = some a) : x = .ok a := by
  cases x with
  | error e => cases h
  | ok a' => exact congrArg Except.ok (Option.some.inj h)

/-- A result of which something is known is there. -/
theorem exists_ok_of_map {f : α → β} {b : β} (h : x.toOption.map f = some b) :
    ∃ a, x = .ok a ∧ f a = b := by
  obtain ⟨a, ha, hf⟩ := Option.map_eq_some_iff.1 h
  exact ⟨a, eq_ok_of_toOption ha, hf⟩

end Results

/-! ## Traversals -/

/-- A traversal succeeds with what it makes of every member. -/
theorem mapM_eq_ok_iff {α β ε : Type} {f : α → Except ε β} {xs : List α} {ys : List β} :
    xs.mapM f = .ok ys ↔ List.Forall₂ (fun x y => f x = .ok y) xs ys := by
  induction xs generalizing ys with
  | nil => simp [pure, Except.pure, eq_comm]
  | cons x xs ih =>
    rw [List.mapM_cons, bind_eq_ok_iff, List.forall₂_cons_left_iff]
    constructor
    · rintro ⟨y, hy, h⟩
      obtain ⟨zs, hzs, hys⟩ := bind_eq_ok_iff.1 h
      exact ⟨y, zs, hy, ih.1 hzs, (Except.ok.inj hys).symm⟩
    · rintro ⟨y, zs, hy, hzs, rfl⟩
      exact ⟨y, hy, bind_eq_ok_iff.2 ⟨zs, ih.2 hzs, rfl⟩⟩

theorem mapM_eq_none_iff {α β : Type} {f : α → Option β} {xs : List α} :
    xs.mapM f = none ↔ ∃ x ∈ xs, f x = none := by
  induction xs with
  | nil => simp
  | cons x xs ih =>
    rw [List.mapM_cons, List.exists_mem_cons_iff, ← ih]
    cases f x with
    | none => simp
    | some y => cases xs.mapM f <;> simp

/-- A traversal whose steps only compute is a map. -/
theorem mapM_of_pure {m : Type → Type} [Monad m] [LawfulMonad m] {α β : Type} {f : α → m β}
    {g : α → β} {xs : List α} (h : ∀ x ∈ xs, f x = pure (g x)) : xs.mapM f = pure (xs.map g) := by
  induction xs with
  | nil => exact List.mapM_nil
  | cons x xs ih =>
    rw [List.forall_mem_cons] at h
    rw [List.mapM_cons, h.1, ih h.2, pure_bind, pure_bind, List.map_cons]

/-- So is one whose steps have results that each stand in a relation to their member. -/
theorem exists_mapM_forall₂ {m : Type → Type} [Monad m] [LawfulMonad m] {α β : Type} {f : α → m β}
    {q : α → β → Prop} {xs : List α} (h : ∀ x ∈ xs, ∃ y, f x = pure y ∧ q x y) :
    ∃ ys, xs.mapM f = pure ys ∧ List.Forall₂ q xs ys := by
  induction xs with
  | nil => exact ⟨[], List.mapM_nil, .nil⟩
  | cons x xs ih =>
    rw [List.forall_mem_cons] at h
    obtain ⟨⟨y, hy, hxy⟩, hxs⟩ := h
    obtain ⟨ys, hys, hxsys⟩ := ih hxs
    exact ⟨y :: ys, by rw [List.mapM_cons, hy, hys, pure_bind, pure_bind], .cons hxy hxsys⟩

/-- Each member on the right has one on the left that it comes from. -/
theorem exists_mem_left_of_forall₂ {α β : Type} {r : α → β → Prop} {xs : List α} {ys : List β}
    (h : List.Forall₂ r xs ys) {y : β} (hy : y ∈ ys) : ∃ x ∈ xs, r x y := by
  induction h with
  | nil => cases hy
  | cons hr _ ih =>
    rcases List.mem_cons.1 hy with rfl | hy
    · exact ⟨_, List.mem_cons_self, hr⟩
    · obtain ⟨x, hx, hxy⟩ := ih hy
      exact ⟨x, List.mem_cons_of_mem _ hx, hxy⟩

/-- Some member has a property on both sides or on neither. -/
theorem exists_mem_iff_of_forall₂ {α β : Type} {r : α → β → Prop} {xs : List α} {ys : List β}
    {p : α → Prop} {q : β → Prop} (h : List.Forall₂ r xs ys) (hpq : ∀ x y, r x y → (p x ↔ q y)) :
    (∃ x ∈ xs, p x) ↔ ∃ y ∈ ys, q y := by
  induction h with
  | nil => simp
  | cons hr _ ih => rw [List.exists_mem_cons_iff, List.exists_mem_cons_iff, hpq _ _ hr, ih]

/-- Members that are alike under two maps make the mapped lists equal. -/
theorem map_eq_of_forall₂ {α β γ : Type} {f : α → γ} {g : β → γ} {xs : List α} {ys : List β}
    (h : List.Forall₂ (fun x y => g y = f x) xs ys) : ys.map g = xs.map f := by
  induction h with
  | nil => rfl
  | cons hxy _ ih => rw [List.map_cons, List.map_cons, hxy, ih]

/-! ## What is kept of a list -/

/-- The second list is what the first one gives, in its order: a member gives the one thing that it
is related to, and nothing if there is no such thing. -/
inductive Sifted {α β : Type} (r : α → β → Prop) : List α → List β → Prop
  | nil : Sifted r [] []
  | kept {x : α} {y : β} {xs : List α} {ys : List β} (h : r x y) (hone : ∀ z, r x z → z = y)
      (hs : Sifted r xs ys) : Sifted r (x :: xs) (y :: ys)
  | passed {x : α} {xs : List α} {ys : List β} (h : ∀ y, ¬ r x y) (hs : Sifted r xs ys) :
      Sifted r (x :: xs) ys

namespace Sifted

variable {α β : Type} {r : α → β → Prop} {xs : List α} {ys : List β}

theorem of_filterMap {f : α → Option β} (h : ∀ x ∈ xs, ∀ y, f x = some y ↔ r x y) :
    Sifted r xs (xs.filterMap f) := by
  induction xs with
  | nil => exact .nil
  | cons x xs ih =>
    rw [List.forall_mem_cons] at h
    cases hx : f x with
    | none =>
      rw [List.filterMap_cons_none hx]
      refine .passed (fun y hy => ?_) (ih h.2)
      rw [← h.1 y, hx] at hy
      cases hy
    | some y =>
      rw [List.filterMap_cons_some hx]
      refine .kept ((h.1 y).1 hx) (fun z hz => ?_) (ih h.2)
      rw [← h.1 z, hx] at hz
      exact (Option.some.inj hz).symm

theorem empty (h : ∀ x ∈ xs, ∀ y, ¬ r x y) : Sifted r xs [] := by
  induction xs with
  | nil => exact .nil
  | cons x xs ih =>
    rw [List.forall_mem_cons] at h
    exact .passed h.1 (ih h.2)

/-- Members that give nothing may be left out before. -/
theorem of_filter {q : α → Bool} (h : Sifted r (xs.filter q) ys)
    (hq : ∀ x ∈ xs, ∀ y, r x y → q x = true) : Sifted r xs ys := by
  induction xs generalizing ys with
  | nil => exact h
  | cons x xs ih =>
    rw [List.forall_mem_cons] at hq
    cases hx : q x with
    | false =>
      rw [List.filter_cons_of_neg (by simp [hx])] at h
      refine .passed (fun y hy => ?_) (ih h hq.2)
      rw [hq.1 y hy] at hx
      cases hx
    | true =>
      rw [List.filter_cons_of_pos hx] at h
      cases h with
      | kept hr hone hs => exact .kept hr hone (ih hs hq.2)
      | passed hr hs => exact .passed hr (ih hs hq.2)

theorem eq_nil_iff (h : Sifted r xs ys) : ys = [] ↔ ∀ x ∈ xs, ∀ y, ¬ r x y := by
  induction h with
  | nil => simp
  | kept hr _ _ _ =>
    rw [List.forall_mem_cons]
    exact iff_of_false (List.cons_ne_nil _ _) fun hnone => hnone.1 _ hr
  | passed hr _ ih => rw [ih, List.forall_mem_cons, and_iff_right hr]

end Sifted

/-! ## Two computations -/

/-- Both fail with the same fault, or both succeed and the results are related. -/
inductive Agree {ε α β : Type} (r : α → β → Prop) : Except ε α → Except ε β → Prop
  | fault (e : ε) : Agree r (.error e) (.error e)
  | made {x : α} {y : β} (h : r x y) : Agree r (.ok x) (.ok y)

namespace Agree

variable {ε α β γ δ : Type} {r : α → β → Prop} {q : γ → δ → Prop}

theorem imp {a : Except ε α} {b : Except ε β} {r' : α → β → Prop} (h : Agree r a b)
    (hr : ∀ x y, a = .ok x → b = .ok y → r x y → r' x y) : Agree r' a b := by
  cases h with
  | fault e => exact .fault e
  | made h => exact .made (hr _ _ rfl rfl h)

theorem bind {a : Except ε α} {b : Except ε β} (h : Agree r a b) {f : α → Except ε γ}
    {g : β → Except ε δ} (hfg : ∀ x y, r x y → Agree q (f x) (g y)) :
    Agree q (a.bind f) (b.bind g) := by
  cases h with
  | fault e => exact .fault e
  | made h => exact hfg _ _ h

theorem map {a : Except ε α} {b : Except ε β} (h : Agree r a b) {f : α → γ} {g : β → δ}
    (hfg : ∀ x y, r x y → q (f x) (g y)) : Agree q (a.map f) (b.map g) := by
  cases h with
  | fault e => exact .fault e
  | made h => exact .made (hfg _ _ h)

theorem mapError {ε' : Type} {a : Except ε α} {b : Except ε β} (h : Agree r a b) (f : ε → ε') :
    Agree r (a.mapError f) (b.mapError f) := by
  cases h with
  | fault e => exact .fault (f e)
  | made h => exact .made h

/-- Traversals that agree at every two members agree. -/
theorem mapM {p : α → β → Prop} {f : α → Except ε γ} {g : β → Except ε δ} {xs : List α}
    {ys : List β} (h : List.Forall₂ p xs ys) (hfg : ∀ x y, p x y → Agree q (f x) (g y)) :
    Agree (List.Forall₂ q) (xs.mapM f) (ys.mapM g) := by
  induction h with
  | nil => exact .made .nil
  | cons hxy _ ih =>
    rw [List.mapM_cons, List.mapM_cons]
    exact (hfg _ _ hxy).bind fun z w hzw => ih.bind fun zs ws hzsws => .made (.cons hzw hzsws)

end Agree

/-! ## Checks -/

/-- What a computation lets through, and what is wrong with the rest. -/
structure Checks {α β ε : Type} (f : α → Except ε β) (sound : α → Prop)
    (faulty : α → ε → Prop) : Prop where
  ok_iff : ∀ x, (∃ y, f x = .ok y) ↔ sound x
  error_iff : ∀ x e, f x = .error e ↔ faulty x e

/-- The fault of the first member that has one. -/
def FirstFault {α ε : Type} (sound : α → Prop) (faulty : α → ε → Prop) (xs : List α) (e : ε) :
    Prop :=
  ∃ before x after, xs = before ++ x :: after ∧ (∀ y ∈ before, sound y) ∧ faulty x e

section FirstFault

variable {α ε : Type} {sound : α → Prop} {faulty : α → ε → Prop} {x : α} {xs : List α} {e : ε}

theorem FirstFault.here (h : faulty x e) : FirstFault sound faulty (x :: xs) e :=
  ⟨[], x, xs, rfl, nofun, h⟩

theorem FirstFault.later (hx : sound x) (h : FirstFault sound faulty xs e) :
    FirstFault sound faulty (x :: xs) e := by
  obtain ⟨before, y, after, rfl, hbefore, hy⟩ := h
  exact ⟨x :: before, y, after, rfl, List.forall_mem_cons.2 ⟨hx, hbefore⟩, hy⟩

end FirstFault

theorem firstFault_cons {α ε : Type} {sound : α → Prop} {faulty : α → ε → Prop} {x : α}
    {xs : List α} {e : ε} :
    FirstFault sound faulty (x :: xs) e ↔
      faulty x e ∨ sound x ∧ FirstFault sound faulty xs e := by
  constructor
  · rintro ⟨before, y, after, hsplit, hbefore, hy⟩
    cases before with
    | nil =>
      cases hsplit
      exact .inl hy
    | cons z before =>
      cases hsplit
      rw [List.forall_mem_cons] at hbefore
      exact .inr ⟨hbefore.1, before, y, after, rfl, hbefore.2, hy⟩
  · rintro (hx | ⟨hx, hxs⟩)
    · exact .here hx
    · exact .later hx hxs

/-- If every member is sound or has a fault, all are sound or one has the first fault. -/
theorem sound_or_firstFault {α ε : Type} {sound : α → Prop} {faulty : α → ε → Prop} {xs : List α}
    (h : ∀ x ∈ xs, sound x ∨ ∃ e, faulty x e) :
    (∀ x ∈ xs, sound x) ∨ ∃ e, FirstFault sound faulty xs e := by
  induction xs with
  | nil => exact .inl nofun
  | cons x xs ih =>
    rw [List.forall_mem_cons] at h ⊢
    simp only [firstFault_cons]
    rcases h.1 with hx | ⟨e, he⟩
    · rcases ih h.2 with hxs | ⟨e, he⟩
      · exact .inl ⟨hx, hxs⟩
      · exact .inr ⟨e, .inr ⟨hx, he⟩⟩
    · exact .inr ⟨e, .inl he⟩

namespace Checks

variable {α β ε : Type} {f : α → Except ε β} {sound : α → Prop} {faulty : α → ε → Prop}

/-- It is enough to know what becomes of the sound and of the faulty, if there is nothing else. -/
theorem of_alternative (hok : ∀ x, sound x → ∃ y, f x = .ok y)
    (herror : ∀ x e, faulty x e → f x = .error e) (h : ∀ x, sound x ∨ ∃ e, faulty x e) :
    Checks f sound faulty := by
  constructor
  · refine fun x => ⟨?_, hok x⟩
    rintro ⟨y, hy⟩
    rcases h x with hsound | ⟨e, he⟩
    · exact hsound
    · rw [herror x e he] at hy
      cases hy
  · refine fun x e => ⟨fun hx => ?_, herror x e⟩
    rcases h x with hsound | ⟨e', he'⟩
    · obtain ⟨y, hy⟩ := hok x hsound
      rw [hx] at hy
      cases hy
    · rw [herror x e' he'] at hx
      cases hx
      exact he'

theorem sound_of_ok (h : Checks f sound faulty) {x : α} {y : β} (hx : f x = .ok y) : sound x :=
  (h.ok_iff x).1 ⟨y, hx⟩

/-- If all that is sound has a value that is computed, nothing else is computed. -/
theorem eq_ok_iff {value : α → β → Prop} (h : Checks f sound faulty)
    (hvalue : ∀ x y, value x y → f x = .ok y) (hsound : ∀ x, sound x → ∃ y, value x y) {x : α}
    {y : β} : f x = .ok y ↔ value x y := by
  refine ⟨fun hx => ?_, hvalue x y⟩
  obtain ⟨y', hy'⟩ := hsound x (h.sound_of_ok hx)
  rw [hvalue x y' hy'] at hx
  exact Except.ok.inj hx ▸ hy'

theorem sound_or_faulty (h : Checks f sound faulty) (x : α) : sound x ∨ ∃ e, faulty x e := by
  cases hx : f x with
  | ok y => exact .inl (h.sound_of_ok hx)
  | error e => exact .inr ⟨e, (h.error_iff x e).1 hx⟩

theorem not_faulty (h : Checks f sound faulty) {x : α} {e : ε} (hx : sound x) : ¬ faulty x e := by
  obtain ⟨y, hy⟩ := (h.ok_iff x).2 hx
  rw [← h.error_iff, hy]
  nofun

theorem mapM_cons_ok_iff {x : α} {xs : List α} :
    (∃ ys, (x :: xs).mapM f = .ok ys) ↔ (∃ y, f x = .ok y) ∧ ∃ ys, xs.mapM f = .ok ys := by
  rw [List.mapM_cons]
  cases f x with
  | error e => simp [bind, Except.bind]
  | ok y => cases xs.mapM f <;> simp [bind, Except.bind, pure, Except.pure]

theorem mapM_cons_error_iff {x : α} {xs : List α} {e : ε} :
    (x :: xs).mapM f = .error e ↔
      f x = .error e ∨ (∃ y, f x = .ok y) ∧ xs.mapM f = .error e := by
  rw [List.mapM_cons]
  cases f x with
  | error e' => simp [bind, Except.bind]
  | ok y => cases xs.mapM f <;> simp [bind, Except.bind, pure, Except.pure]

/-- **A traversal of checks lets through what has only sound members,** and fails with the fault of
the first other member. -/
theorem mapM (h : Checks f sound faulty) :
    Checks (List.mapM f) (fun xs => ∀ x ∈ xs, sound x) (FirstFault sound faulty) := by
  constructor
  · intro xs
    induction xs with
    | nil => simp [pure, Except.pure]
    | cons x xs ih => rw [mapM_cons_ok_iff, ih, h.ok_iff, List.forall_mem_cons]
  · intro xs e
    induction xs with
    | nil => simp [pure, Except.pure, FirstFault]
    | cons x xs ih => rw [mapM_cons_error_iff, ih, h.ok_iff, h.error_iff, firstFault_cons]

end Checks

end GridQuery
