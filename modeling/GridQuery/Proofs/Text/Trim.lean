import GridQuery.Text.Blank
import Mathlib.Data.List.TakeWhile

/-!
# What trimming leaves

A text is what trimming leaves of it, between blanks. A text with no blank at either end is left as
it is, and is what is left of it between any blanks.

Main results: `Text.trimChars_between`, `Text.exists_trimChars` and `Text.trimChars_pad`.
-/

namespace GridQuery.Text

/-- Every character is blank. -/
def Blanks (cs : List Char) : Prop := ∀ c ∈ cs, isBlank c = true

instance (cs : List Char) : Decidable (Blanks cs) :=
  decidable_of_iff (cs.all isBlank = true) List.all_eq_true

/-- Neither end is blank. -/
structure Tight (cs : List Char) : Prop where
  head : ∀ c ∈ cs.head?, isBlank c = false
  last : ∀ c ∈ cs.getLast?, isBlank c = false

variable {before cs after : List Char}

theorem not_blank_of_all (h : cs.all (fun c => !isBlank c) = true) :
    ∀ c ∈ cs, isBlank c = false := by
  simpa using h

theorem not_blank_of_last {last : Option Char} (h : last.all (fun c => !isBlank c) = true) :
    ∀ c ∈ last, isBlank c = false := by
  rintro c ⟨⟩
  simpa using h

theorem Tight.of_forall (h : ∀ c ∈ cs, isBlank c = false) : Tight cs :=
  ⟨fun c hc => h c (List.mem_of_head? hc), fun c hc => h c (List.mem_of_getLast? hc)⟩

theorem allBlank_eq_true_iff {s : String} :
    allBlank s = true ↔ ∀ c ∈ s.toList, isBlank c = true := by
  simp [allBlank]

theorem allBlank_eq_false_iff {s : String} :
    allBlank s = false ↔ ∃ c ∈ s.toList, isBlank c = false := by
  simp [allBlank]

theorem isBlank_of_isDigit {c : Char} (h : c.isDigit = true) : isBlank c = false := by
  have hrange : 48 ≤ c.toNat ∧ c.toNat ≤ 57 := by
    simpa [Char.isDigit, UInt32.le_iff_toNat_le] using h
  simp only [isBlank, Bool.or_eq_false_iff, Bool.and_eq_false_iff, decide_eq_false_iff_not,
    beq_eq_false_iff_ne]
  omega

theorem dropBlanksEnd_append_of_blank (hafter : Blanks after) (cs : List Char) :
    dropBlanksEnd (cs ++ after) = dropBlanksEnd cs := by
  have hreverse : Blanks after.reverse := fun c hc => hafter c (List.mem_reverse.1 hc)
  have hdrop := dropBlanks_append_of_blank hreverse cs.reverse
  rw [dropBlanks, dropBlanks] at hdrop
  rw [dropBlanksEnd, dropBlanksEnd, List.reverse_append, hdrop]

theorem dropBlanksEnd_eq_self (h : ∀ c ∈ cs.getLast?, isBlank c = false) :
    dropBlanksEnd cs = cs := by
  have hdrop : dropBlanks cs.reverse = cs.reverse :=
    dropBlanks_eq_self fun c hc => h c (List.head?_reverse ▸ hc)
  rw [dropBlanks] at hdrop
  rw [dropBlanksEnd, hdrop, List.reverse_reverse]

theorem trimChars_eq_self (h : Tight cs) : trimChars cs = cs := by
  rw [trimChars, dropBlanks_eq_self h.head, dropBlanksEnd_eq_self h.last]

/-- **A text without blanks at its ends is what is left of it between blanks.** -/
theorem trimChars_between (hbefore : Blanks before) (hafter : Blanks after) (h : Tight cs) :
    trimChars (before ++ cs ++ after) = cs := by
  rw [List.append_assoc, trimChars, dropBlanks_append_of_blank hbefore]
  cases cs with
  | nil =>
    have hdrop : dropBlanks after = [] := List.dropWhile_eq_nil_iff.2 hafter
    rw [List.nil_append, hdrop]
    rfl
  | cons c cs =>
    have hdrop : dropBlanks (c :: cs ++ after) = c :: cs ++ after := dropBlanks_eq_self h.head
    rw [hdrop, dropBlanksEnd_append_of_blank hafter, dropBlanksEnd_eq_self h.last]

/-- What is dropped at the end is blank. -/
theorem exists_dropBlanksEnd (cs : List Char) :
    ∃ after, Blanks after ∧ cs = dropBlanksEnd cs ++ after := by
  refine ⟨(cs.reverse.takeWhile isBlank).reverse,
    fun c hc => List.mem_takeWhile_imp (List.mem_reverse.1 hc), ?_⟩
  rw [dropBlanksEnd, ← List.reverse_append, List.takeWhile_append_dropWhile, List.reverse_reverse]

/-- **A text is what is left of it, between blanks.** -/
theorem exists_trimChars (cs : List Char) :
    ∃ before after, Blanks before ∧ Blanks after ∧ cs = before ++ trimChars cs ++ after := by
  obtain ⟨after, hafter, hcs⟩ := exists_dropBlanksEnd (dropBlanks cs)
  refine ⟨cs.takeWhile isBlank, after, fun c hc => List.mem_takeWhile_imp hc, hafter, ?_⟩
  rw [trimChars, List.append_assoc, ← hcs, dropBlanks, List.takeWhile_append_dropWhile]

/-- Nothing is left of blanks only. -/
theorem trimChars_eq_nil_iff : trimChars cs = [] ↔ Blanks cs := by
  constructor
  · intro h
    obtain ⟨before, after, hbefore, hafter, hcs⟩ := exists_trimChars cs
    rw [h, List.append_nil] at hcs
    exact hcs ▸ List.forall_mem_append.2 ⟨hbefore, hafter⟩
  · intro h
    rw [trimChars, dropBlanks, List.dropWhile_eq_nil_iff.2 h]
    rfl

theorem dropBlanks_subset (cs : List Char) : dropBlanks cs ⊆ cs :=
  (List.dropWhile_suffix _).subset

theorem dropBlanksEnd_subset (cs : List Char) : dropBlanksEnd cs ⊆ cs := fun _ hc =>
  List.mem_reverse.1 (dropBlanks_subset cs.reverse (List.mem_reverse.1 hc))

theorem trimChars_subset (cs : List Char) : trimChars cs ⊆ cs :=
  List.Subset.trans (dropBlanksEnd_subset _) (dropBlanks_subset cs)

/-- A character that is not blank ends the blanks at the start. -/
theorem dropBlanks_append_cons {c : Char} (hc : isBlank c = false) (xs ys : List Char) :
    dropBlanks (xs ++ c :: ys) = dropBlanks xs ++ c :: ys := by
  rw [dropBlanks, List.dropWhile_append, List.dropWhile_cons_of_neg (by simp [hc]), dropBlanks]
  by_cases hxs : (xs.dropWhile isBlank).isEmpty = true
  · rw [if_pos hxs, List.isEmpty_iff.1 hxs, List.nil_append]
  · rw [if_neg hxs]

theorem dropBlanksEnd_append_cons {c : Char} (hc : isBlank c = false) (xs ys : List Char) :
    dropBlanksEnd (xs ++ c :: ys) = xs ++ c :: dropBlanksEnd ys := by
  have hdrop := dropBlanks_append_cons hc ys.reverse xs.reverse
  rw [dropBlanks, dropBlanks] at hdrop
  simp [dropBlanksEnd, hdrop]

theorem tight_trimChars (cs : List Char) : Tight (trimChars cs) := by
  have hstart (cs : List Char) : ∀ c ∈ (dropBlanks cs).head?, isBlank c = false := by
    intro c hc
    have hnot := List.head?_dropWhile_not isBlank cs
    rw [dropBlanks] at hc
    rwa [hc] at hnot
  constructor
  · intro c hc
    cases hcs : dropBlanks cs with
    | nil =>
      rw [trimChars, hcs] at hc
      cases hc
    | cons d ds =>
      have hd : isBlank d = false := hstart cs d (by rw [hcs]; rfl)
      have hcut := dropBlanksEnd_append_cons hd [] ds
      rw [trimChars, hcs, ← List.nil_append (d :: ds), hcut] at hc
      cases hc
      exact hd
  · intro c hc
    rw [trimChars, dropBlanksEnd, List.getLast?_reverse] at hc
    exact hstart _ c hc

/-- **What trimming leaves does not depend on the blanks around a text.** -/
theorem trimChars_pad (hbefore : Blanks before) (hafter : Blanks after) (cs : List Char) :
    trimChars (before ++ cs ++ after) = trimChars cs := by
  obtain ⟨before', after', hbefore', hafter', hcs⟩ := exists_trimChars cs
  have htight := tight_trimChars cs
  generalize trimChars cs = kept at hcs htight ⊢
  subst hcs
  have hkept := trimChars_between (List.forall_mem_append.2 ⟨hbefore, hbefore'⟩)
    (List.forall_mem_append.2 ⟨hafter', hafter⟩) htight
  simpa only [List.append_assoc] using hkept

end GridQuery.Text
