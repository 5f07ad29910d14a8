import GridQuery.Proofs.Sql.Phrase
import Mathlib.Data.List.DropRight
import Mathlib.Data.List.Forall2

/-!
# Reading conditions

What follows a WHERE is read as a formula over atoms: parentheses first, then OR, then AND,
which binds tighter. The words AND and OR count only as words, so they count only outside
quoted names. An atom is whatever stands between them, with the parentheses of its functions.

Reading goes through the tokens once. Each open parenthesis begins a list of items of its own,
and closing it makes one item of them.

Main result: `Formula.read_joined`, conditions with one connective between any two are read as
that connective of what each of them says.
-/

namespace GridQuery.Sql

/-! ## Formulas -/

inductive Formula where
  | atom (ts : List (Token String))
  | and (f g : Formula)
  | or (f g : Formula)

namespace Formula

/-- The atoms from left to right. -/
def atoms : Formula → List (List (Token String))
  | .atom ts => [ts]
  | .and f g => f.atoms ++ g.atoms
  | .or f g => f.atoms ++ g.atoms

/-- The truth of a formula, given the truth of its atoms from left to right. -/
def holds : Formula → List Bool → Bool
  | .atom _, v => v.headD false
  | .and f g, v => f.holds v && g.holds (v.drop f.atoms.length)
  | .or f g, v => f.holds v || g.holds (v.drop f.atoms.length)

/-- Formulas with a connective between any two. -/
def join (op : Formula → Formula → Formula) : List Formula → Option Formula
  | [] => none
  | f :: fs => Option.merge op (some f) (join op fs)

theorem join_eq_none {op : Formula → Formula → Formula} {fs : List Formula} :
    join op fs = none ↔ fs = [] := by
  cases fs with
  | nil => simp [join]
  | cons f fs => cases h : join op fs <;> simp [join, h]

end Formula

/-! ## The reader -/

/-- A token, or what stands in parentheses. -/
inductive Item where
  | token (t : Token String)
  | group (f : Option Formula) (ts : List (Token String))

namespace Item

def tokens : Item → List (Token String)
  | .token t => [t]
  | .group _ ts => .sign '(' :: ts ++ [.sign ')']

def isWord (w : String) : Item → Bool
  | .token t => t = .word w
  | .group _ _ => false

def isBlank : Item → Bool
  | .token t => t = .sign ' '
  | .group _ _ => false

/-- Without the blanks at both ends. -/
def strip (is : List Item) : List Item := (is.dropWhile isBlank).rdropWhile isBlank

/-- What stands between connectives: something in parentheses, or an atom. -/
def factor : List Item → Option Formula
  | [] => none
  | [.group f _] => f
  | is => some (.atom (is.flatMap tokens))

/-- What stands between ORs. -/
def conjunction (is : List Item) : Option Formula :=
  ((is.splitOnP (isWord "AND")).mapM fun xs => factor (strip xs)).bind (Formula.join .and)

/-- What stands between parentheses. -/
def disjunction (is : List Item) : Option Formula :=
  ((is.splitOnP (isWord "OR")).mapM conjunction).bind (Formula.join .or)

end Item

/-- Reads on behind the items `is` of the innermost open parenthesis, where `outer` are the items
before the open ones. -/
def readItems : List (List Item) → List Item → List (Token String) → Option Formula
  | [], is, [] => Item.disjunction is
  | _ :: _, _, [] => none
  | outer, is, t :: ts =>
    if t = .sign '(' then readItems (is :: outer) [] ts
    else if t = .sign ')' then
      match outer with
      | [] => none
      | before :: outer =>
        readItems outer (before ++ [.group (Item.disjunction is) (is.flatMap Item.tokens)]) ts
    else readItems outer (is ++ [.token t]) ts

/-- The formula of a condition. -/
def Formula.read (ts : List (Token String)) : Option Formula := readItems [] [] ts

/-- What follows the first WHERE, if there is one. -/
def whereOf : List (Token String) → Option (List (Token String))
  | [] => none
  | t :: ts => if t = .word "WHERE" then some ts else whereOf ts

/-- The condition of a SQL text: `none` if it cannot be read, `some none` if there is no WHERE. -/
def conditionOf (d : Dialect) (sql : String) : Option (Option Formula) :=
  (read d sql).bind fun ts =>
    match whereOf ts with
    | none => some none
    | some ts => (Formula.read ts).map some

/-! ## Items of tokens -/

/-- The items stand for the tokens: wherever the tokens are read, they add these items. -/
structure Yields (ts : List (Token String)) (is : List Item) : Prop where
  adds : ∀ outer before rest,
    readItems outer before (ts ++ rest) = readItems outer (before ++ is) rest
  tokens : is.flatMap Item.tokens = ts

namespace Yields

variable {ts us : List (Token String)} {is js : List Item}

theorem nil : Yields [] [] where
  adds outer before rest := by rw [List.nil_append, List.append_nil]
  tokens := rfl

theorem append (h : Yields ts is) (h' : Yields us js) : Yields (ts ++ us) (is ++ js) where
  adds outer before rest := by rw [List.append_assoc, h.adds, h'.adds, List.append_assoc]
  tokens := by rw [List.flatMap_append, h.tokens, h'.tokens]

theorem token {t : Token String} (ho : t ≠ .sign '(') (hc : t ≠ .sign ')') :
    Yields [t] [.token t] where
  adds outer before rest := by
    rw [List.singleton_append, readItems.eq_def]
    cases outer <;> simp [ho, hc]
  tokens := rfl

theorem group (h : Yields ts is) :
    Yields (.sign '(' :: ts ++ [.sign ')']) [.group (Item.disjunction is) ts] where
  adds outer before rest := by
    have hopen : readItems outer before (.sign '(' :: (ts ++ .sign ')' :: rest)) =
        readItems (before :: outer) [] (ts ++ .sign ')' :: rest) := by
      rw [readItems.eq_def]
      cases outer <;> rfl
    have hclose : readItems (before :: outer) is (.sign ')' :: rest) =
        readItems outer (before ++ [.group (Item.disjunction is) ts]) rest := by
      rw [readItems.eq_def]
      simp [h.tokens]
    have hbody := h.adds (before :: outer) [] (.sign ')' :: rest)
    rw [List.nil_append, hclose] at hbody
    simpa [hopen] using hbody
  tokens := by simp [Item.tokens]

theorem read (h : Yields ts is) : Formula.read ts = Item.disjunction is := by
  have hall := h.adds [] [] []
  rw [List.append_nil, List.nil_append] at hall
  rw [Formula.read, hall, readItems]

theorem intercalate {sep : List (Token String)} {gap : List Item} (hsep : Yields sep gap)
    {tss : List (List (Token String))} {iss : List (List Item)} (h : List.Forall₂ Yields tss iss) :
    Yields (sep.intercalate tss) (gap.intercalate iss) := by
  induction h with
  | nil => exact nil
  | @cons ts is tss iss hhead htail ih =>
    cases htail with
    | nil => simpa using hhead
    | cons _ _ =>
      rw [List.intercalate_cons_cons, List.intercalate_cons_cons]
      exact (hhead.append hsep).append ih

end Yields

/-! ## Factors -/

/-- Any number of blanks. -/
def blanks (n : Nat) : List Item := List.replicate n (.token (.sign ' '))

/-- A connective between blanks. -/
def gap (w : String) : List Item := [.token (.sign ' '), .token (.word w), .token (.sign ' ')]

theorem yields_between (w : String) : Yields (between w) (gap w) :=
  ((Yields.token (by decide) (by decide)).append (Yields.token (by simp) (by simp))).append
    (Yields.token (by decide) (by decide))

/-- The items stand for the formula, which needs no parentheses around it. -/
structure IsFactor (is : List Item) (f : Formula) : Prop where
  bare : ∀ i ∈ is, i.isWord "AND" = false ∧ i.isWord "OR" = false
  head : ∃ i js, is = i :: js ∧ i.isBlank = false
  last : ∃ js i, is = js ++ [i] ∧ i.isBlank = false
  reads : Item.factor is = some f

namespace IsFactor

variable {is : List Item} {f : Formula}

theorem strip_blanks (h : IsFactor is f) (m n : Nat) :
    Item.strip (blanks m ++ is ++ blanks n) = is := by
  have hfront : ∀ js : List Item, (blanks m ++ js).dropWhile Item.isBlank =
      js.dropWhile Item.isBlank := by
    intro js
    refine List.dropWhile_append_of_pos fun i hi => ?_
    rw [List.eq_of_mem_replicate hi]
    rfl
  have hback : ∀ n, (is ++ blanks n).rdropWhile Item.isBlank = is := by
    intro n
    induction n with
    | zero =>
      obtain ⟨js, i, rfl, hi⟩ := h.last
      simp [blanks, hi]
    | succ n ih =>
      rw [blanks, List.replicate_succ', ← List.append_assoc,
        List.rdropWhile_concat_pos _ _ _ rfl]
      exact ih
  -- The ends of a factor are no blanks, so stripping stops at them.
  obtain ⟨i, js, hjs, hi⟩ := h.head
  have hstay : (is ++ blanks n).dropWhile Item.isBlank = is ++ blanks n := by
    rw [hjs, List.cons_append, List.dropWhile_cons_of_neg (by simp [hi])]
  rw [Item.strip, List.append_assoc, hfront, hstay, hback]

/-- Blanks around a factor hold no connective. -/
theorem bare_blanks (h : IsFactor is f) (m n : Nat) {w : String} (hw : w = "AND" ∨ w = "OR") :
    ∀ i ∈ blanks m ++ is ++ blanks n, i.isWord w = false := by
  have hblank : ∀ n, ∀ i ∈ blanks n, i.isWord w = false := by
    intro n i hi
    rw [List.eq_of_mem_replicate hi]
    simp [Item.isWord]
  intro i hi
  rw [List.mem_append, List.mem_append] at hi
  rcases hi with (hi | hi) | hi
  · exact hblank m i hi
  · rcases hw with rfl | rfl
    · exact (h.bare i hi).1
    · exact (h.bare i hi).2
  · exact hblank n i hi

theorem conjunction_blanks (h : IsFactor is f) (m n : Nat) :
    Item.conjunction (blanks m ++ is ++ blanks n) = some f := by
  rw [Item.conjunction, List.splitOnP_eq_singleton (h.bare_blanks m n (.inl rfl)),
    List.mapM_cons, List.mapM_nil, h.strip_blanks, h.reads]
  rfl

end IsFactor

/-! ## Joined conditions -/

/-- A connective of SQL. -/
inductive Connective where
  | and
  | or

namespace Connective

def word : Connective → String
  | .and => "AND"
  | .or => "OR"

def op : Connective → Formula → Formula → Formula
  | .and => .and
  | .or => .or

end Connective

/-- Splitting at a connective gives back the factors between, whatever blanks each part keeps. -/
theorem mapM_splitOnP {w : String} {g : List Item → Option Formula} {iss : List (List Item)}
    {fs : List Formula} (h : List.Forall₂ IsFactor iss fs) (hw : w = "AND" ∨ w = "OR")
    (hg : ∀ is f, IsFactor is f → ∀ m n, g (blanks m ++ is ++ blanks n) = some f)
    (hne : iss ≠ []) (m : Nat) :
    ((blanks m ++ (gap w).intercalate iss).splitOnP (Item.isWord w)).mapM g = some fs := by
  -- Induction on the factors; each part keeps the blank behind the connective in front of it.
  induction h generalizing m with
  | nil => exact absurd rfl hne
  | @cons is f iss fs hhead htail ih =>
    cases htail with
    | nil =>
      have hbare := hhead.bare_blanks m 0 hw
      have hread := hg is f hhead m 0
      rw [show blanks 0 = [] from rfl, List.append_nil] at hbare hread
      rw [List.intercalate_singleton, List.splitOnP_eq_singleton hbare, List.mapM_cons,
        List.mapM_nil, hread]
      rfl
    | @cons is' f' iss fs _ _ =>
      have hcut : blanks m ++ (is ++ gap w ++ (gap w).intercalate (is' :: iss)) =
          (blanks m ++ is ++ blanks 1) ++
            .token (.word w) :: (blanks 1 ++ (gap w).intercalate (is' :: iss)) := by
        simp [gap, blanks]
      have hword : Item.isWord w (.token (.word w)) = true := by simp [Item.isWord]
      rw [List.intercalate_cons_cons, hcut,
        List.splitOnP_append_cons_of_forall_mem (hhead.bare_blanks m 1 hw) _ hword,
        List.mapM_cons, hg is f hhead m 1, ih (List.cons_ne_nil _ _) 1]
      rfl

/-- Factors joined by AND hold no OR outside parentheses. -/
theorem bare_joined {iss : List (List Item)} {fs : List Formula}
    (h : List.Forall₂ IsFactor iss fs) (m : Nat) :
    ∀ i ∈ blanks m ++ (gap "AND").intercalate iss, i.isWord "OR" = false := by
  have hgap : ∀ i ∈ gap "AND", i.isWord "OR" = false := by simp [gap, Item.isWord]
  -- Induction on the factors: the gaps hold the other connective only.
  induction h generalizing m with
  | nil =>
    intro i hi
    rw [List.intercalate_nil, List.append_nil] at hi
    rw [List.eq_of_mem_replicate hi]
    simp [Item.isWord]
  | @cons is f iss fs hhead htail ih =>
    have hbare := hhead.bare_blanks m 0 (.inr rfl)
    rw [show blanks 0 = [] from rfl, List.append_nil] at hbare
    cases htail with
    | nil => simpa using hbare
    | cons _ _ =>
      intro i hi
      rw [List.intercalate_cons_cons, ← List.append_assoc, ← List.append_assoc, List.mem_append,
        List.mem_append] at hi
      rcases hi with (hi | hi) | hi
      · exact hbare i hi
      · exact hgap i hi
      · exact ih 0 i (by simpa [blanks] using hi)

theorem disjunction_joined (c : Connective) {iss : List (List Item)} {fs : List Formula}
    (h : List.Forall₂ IsFactor iss fs) (hne : iss ≠ []) (m : Nat) :
    Item.disjunction (blanks m ++ (gap c.word).intercalate iss) = Formula.join c.op fs := by
  cases c with
  | and =>
    have hfactors := mapM_splitOnP (g := fun xs => Item.factor (Item.strip xs)) h (.inl rfl)
      (fun is f hf m n => by rw [hf.strip_blanks, hf.reads]) hne m
    show Item.disjunction (blanks m ++ (gap "AND").intercalate iss) = Formula.join .and fs
    rw [Item.disjunction, List.splitOnP_eq_singleton (bare_joined h m), List.mapM_cons,
      List.mapM_nil, Item.conjunction, hfactors]
    show (do let f ← Formula.join .and fs; pure [f]).bind (Formula.join .or) = _
    cases Formula.join .and fs <;> rfl
  | or =>
    have hfactors := mapM_splitOnP h (.inr rfl)
      (fun is f hf m n => hf.conjunction_blanks m n) hne m
    rw [Item.disjunction, Connective.word, hfactors]
    rfl

/-! ## Tokens of conditions -/

/-- The tokens are read as the formula, also beside connectives. -/
def Closed (ts : List (Token String)) (f : Formula) : Prop := ∃ is, Yields ts is ∧ IsFactor is f

theorem Closed.items {tss : List (List (Token String))} {fs : List Formula}
    (h : List.Forall₂ Closed tss fs) :
    ∃ iss, List.Forall₂ Yields tss iss ∧ List.Forall₂ IsFactor iss fs := by
  induction h with
  | nil => exact ⟨[], .nil, .nil⟩
  | cons hhead _ ih =>
    obtain ⟨is, hyields, hfactor⟩ := hhead
    obtain ⟨iss, hall, hfactors⟩ := ih
    exact ⟨is :: iss, .cons hyields hall, .cons hfactor hfactors⟩

/-- Without parentheses and connectives, and with no blank at the ends, tokens are one atom. -/
theorem closed_atom {ts : List (Token String)} (hne : ts ≠ [])
    (hplain : ∀ t ∈ ts, t ≠ .sign '(' ∧ t ≠ .sign ')' ∧ t ≠ .word "AND" ∧ t ≠ .word "OR")
    (hhead : ts.head? ≠ some (.sign ' ')) (hlast : ts.getLast? ≠ some (.sign ' ')) :
    Closed ts (.atom ts) := by
  -- Tokens without parentheses stay items of their own; this part alone is an induction.
  have hyields : Yields ts (ts.map .token) := by
    clear hne hhead hlast
    induction ts with
    | nil => exact .nil
    | cons t ts ih =>
      obtain ⟨ho, hc, -⟩ := hplain t List.mem_cons_self
      exact (Yields.token ho hc).append (ih fun u hu => hplain u (List.mem_cons_of_mem t hu))
  refine ⟨ts.map .token, hyields, ?_, ?_, ?_, ?_⟩
  · intro i hi
    obtain ⟨t, ht, rfl⟩ := List.mem_map.1 hi
    obtain ⟨-, -, hand, hor⟩ := hplain t ht
    exact ⟨by simp [Item.isWord, hand], by simp [Item.isWord, hor]⟩
  · obtain ⟨t, us, rfl⟩ := List.exists_cons_of_ne_nil hne
    have ht : t ≠ .sign ' ' := by simpa using hhead
    exact ⟨.token t, us.map .token, rfl, by simp [Item.isBlank, ht]⟩
  · obtain ⟨us, t, rfl⟩ := (List.eq_nil_or_concat' ts).resolve_left hne
    have ht : t ≠ .sign ' ' := by simpa using hlast
    exact ⟨us.map .token, .token t, by simp, by simp [Item.isBlank, ht]⟩
  · obtain ⟨t, us, rfl⟩ := List.exists_cons_of_ne_nil hne
    show some (Formula.atom (((t :: us).map Item.token).flatMap Item.tokens)) = _
    rw [hyields.tokens]

/-- In parentheses, joined conditions stand beside connectives as one. -/
theorem closed_enclosed (c : Connective) {tss : List (List (Token String))} {fs : List Formula}
    (h : List.Forall₂ Closed tss fs) {f : Formula} (hf : Formula.join c.op fs = some f) :
    Closed (enclosed c.word tss) f := by
  obtain ⟨iss, hyields, hfactors⟩ := Closed.items h
  have hne : iss ≠ [] := by
    rintro rfl
    cases hfactors
    cases hf
  have hread : Item.disjunction ((gap c.word).intercalate iss) = some f := by
    rw [← hf]
    exact disjunction_joined c hfactors hne 0
  have hgroup := ((yields_between c.word).intercalate hyields).group
  refine ⟨_, hgroup, ?_, ⟨_, _, rfl, rfl⟩, ⟨[], _, rfl, rfl⟩, hread⟩
  intro i hi
  rw [List.mem_singleton.1 hi]
  exact ⟨rfl, rfl⟩

/-- **Joined conditions are read as their connective of what each of them says.** -/
theorem Formula.read_joined (c : Connective) {tss : List (List (Token String))} {fs : List Formula}
    (h : List.Forall₂ Closed tss fs) (hne : tss ≠ []) :
    Formula.read (.sign ' ' :: (between c.word).intercalate tss) = Formula.join c.op fs := by
  obtain ⟨iss, hyields, hfactors⟩ := Closed.items h
  have hne' : iss ≠ [] := by
    rintro rfl
    cases hyields
    exact hne rfl
  have hblank : Yields [.sign ' '] (blanks 1) := .token (by decide) (by decide)
  have hall := hblank.append ((yields_between c.word).intercalate hyields)
  exact hall.read.trans (disjunction_joined c hfactors hne' 1)

end GridQuery.Sql
