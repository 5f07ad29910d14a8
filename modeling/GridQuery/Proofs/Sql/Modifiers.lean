import GridQuery.Proofs.Text.Lower
import GridQuery.Sql.Dialect

/-!
# Words removed from a raw type

In the MySQL family the words about the sign of a number are taken out of the whole text of a raw
type before its arguments are cut, and a member of an enumeration may hold anything, also one of the
words. What keeps the two apart is that a word begins with its only blank and has no parenthesis in
it: so no occurrence reaches across a parenthesis or over the start of another word, and each part
of a raw type is stripped on its own.

Main results: `Dialect.removeWord_append`, `Dialect.strip_append_cons` and
`Dialect.strip_modifiers`.
-/

namespace GridQuery.Dialect

open Text

/-! ## Words that are removed -/

/-- No occurrence of the word goes on into the text. -/
def Breaks (word ys : List Char) : Prop := ∀ c ∈ ys.head?, c ∉ word.tail

variable {word xs ys : List Char}

theorem prefix_of_breaks {x : Char} (h : Breaks word ys) (hword : word <+: x :: xs ++ ys) :
    word <+: x :: xs := by
  rcases List.prefix_or_prefix_of_prefix hword (List.prefix_append (x :: xs) ys) with hxs | hxs
  · exact hxs
  · obtain ⟨zs, rfl⟩ := hxs
    rw [List.prefix_append_right_inj] at hword
    cases zs with
    | nil => exact (List.append_nil (x :: xs)).symm ▸ List.prefix_rfl
    | cons z zs =>
      obtain ⟨rest, rfl⟩ := hword
      exact absurd (List.mem_append_right xs List.mem_cons_self) (h z rfl)

/-- **A text is stripped in parts where no occurrence reaches from one into the next.** -/
theorem removeWord_append_skip (h : Breaks word ys) {skip : Nat} (hskip : skip ≤ xs.length) :
    removeWord word skip (xs ++ ys) = removeWord word skip xs ++ removeWord word 0 ys := by
  induction xs generalizing skip with
  | nil =>
    obtain rfl := Nat.le_zero.1 hskip
    rfl
  | cons x xs ih =>
    cases skip with
    | succ n => exact ih (Nat.le_of_succ_le_succ hskip)
    | zero =>
      rw [List.cons_append, removeWord, removeWord]
      by_cases hword : word <+: x :: xs
      · have hlong : word <+: x :: (xs ++ ys) := hword.trans (List.prefix_append (x :: xs) ys)
        have hlength := hword.length_le
        rw [List.length_cons] at hlength
        rw [if_pos (List.isPrefixOf_iff_prefix.2 hword),
          if_pos (List.isPrefixOf_iff_prefix.2 hlong)]
        exact ih (by omega)
      · have hlong : ¬ word <+: x :: (xs ++ ys) := fun hlong => hword (prefix_of_breaks h hlong)
        rw [if_neg (mt List.isPrefixOf_iff_prefix.1 hword),
          if_neg (mt List.isPrefixOf_iff_prefix.1 hlong), List.cons_append, ih (Nat.zero_le _)]

theorem removeWord_append (h : Breaks word ys) :
    removeWord word 0 (xs ++ ys) = removeWord word 0 xs ++ removeWord word 0 ys :=
  removeWord_append_skip h (Nat.zero_le _)

theorem mem_of_mem_removeWord {skip : Nat} {c : Char} (h : c ∈ removeWord word skip xs) :
    c ∈ xs := by
  induction xs generalizing skip with
  | nil => exact h
  | cons x xs ih =>
    cases skip with
    | succ n => exact List.mem_cons_of_mem _ (ih h)
    | zero =>
      rw [removeWord] at h
      split at h
      · exact List.mem_cons_of_mem _ (ih h)
      · rcases List.mem_cons.1 h with rfl | h
        · exact List.mem_cons_self
        · exact List.mem_cons_of_mem _ (ih h)

theorem removeWord_cons {c : Char} (h : ¬ word <+: c :: ys) :
    removeWord word 0 (c :: ys) = c :: removeWord word 0 ys := by
  rw [removeWord, if_neg (mt List.isPrefixOf_iff_prefix.1 h)]

/-- A character that stands in no word stays, and parts the text. -/
theorem removeWord_append_cons {c : Char} (hword : word ≠ []) (hc : c ∉ word) :
    removeWord word 0 (xs ++ c :: ys) = removeWord word 0 xs ++ c :: removeWord word 0 ys := by
  have hbreaks : Breaks word (c :: ys) := by
    rintro _ ⟨⟩ hmem
    exact hc (List.mem_of_mem_tail hmem)
  have hstarts : ¬ word <+: c :: ys := by
    rintro ⟨rest, hrest⟩
    cases word with
    | nil => exact hword rfl
    | cons w word =>
      cases hrest
      exact hc List.mem_cons_self
  rw [removeWord_append hbreaks, removeWord_cons hstarts]

/-- There is no word in blanks. -/
theorem removeWord_blanks (hword : ∃ c ∈ word, isBlank c = false) (h : Blanks ys) :
    removeWord word 0 ys = ys := by
  induction ys with
  | nil => rfl
  | cons y ys ih =>
    have hstarts : ¬ word <+: y :: ys := by
      intro hstarts
      obtain ⟨c, hc, hblank⟩ := hword
      rw [h c (hstarts.subset hc)] at hblank
      cases hblank
    rw [removeWord_cons hstarts, ih (List.forall_mem_cons.1 h).2]

/-! ## Sign modifiers -/

/-- A modifier begins with its only blank and has no parenthesis. -/
theorem modifier_shape : ∀ w ∈ signModifiers,
    w.head? = some ' ' ∧ '(' ∉ w ∧ ')' ∉ w ∧ w.tail ≠ [] ∧
      (∀ c ∈ w.tail, isBlank c = false) ∧ w.map Char.toLower = w := by
  have hshape : ∀ w ∈ signModifiers,
      w.head? = some ' ' ∧ '(' ∉ w ∧ ')' ∉ w ∧ w.tail ≠ [] ∧
        w.tail.all (fun c => !isBlank c) = true ∧ w.map Char.toLower = w := by
    decide
  intro w hw
  obtain ⟨hhead, hopen, hclose, htail, hletters, hlower⟩ := hshape w hw
  exact ⟨hhead, hopen, hclose, htail, not_blank_of_all hletters, hlower⟩

theorem removeWord_modifier : ∀ w ∈ signModifiers, ∀ m ∈ signModifiers,
    removeWord w 0 m = if m = w then [] else m := by
  decide

/-- The words are removed one after the other. -/
def strip (words : List (List Char)) (cs : List Char) : List Char :=
  words.foldl (fun cs w => removeWord w 0 cs) cs

theorem withoutSign_eq (cs : List Char) :
    withoutSign cs = strip signModifiers ((trimChars cs).map Char.toLower) := rfl

variable {words mods : List (List Char)}

theorem mem_of_mem_strip {c : Char} (h : c ∈ strip words xs) : c ∈ xs := by
  induction words generalizing xs with
  | nil => exact h
  | cons w words ih => exact mem_of_mem_removeWord (ih h)

theorem strip_append_cons {c : Char} (h : ∀ w ∈ words, w ≠ [] ∧ c ∉ w) :
    strip words (xs ++ c :: ys) = strip words xs ++ c :: strip words ys := by
  induction words generalizing xs ys with
  | nil => rfl
  | cons w words ih =>
    rw [List.forall_mem_cons] at h
    show strip words (removeWord w 0 (xs ++ c :: ys)) = _
    rw [removeWord_append_cons h.1.1 h.1.2, ih h.2]
    rfl

theorem strip_append_blanks (hwords : ∀ w ∈ words, w ∈ signModifiers) (hys : Blanks ys) :
    strip words (xs ++ ys) = strip words xs ++ ys := by
  induction words generalizing xs with
  | nil => rfl
  | cons w words ih =>
    rw [List.forall_mem_cons] at hwords
    obtain ⟨-, -, -, htail, hletters, -⟩ := modifier_shape w hwords.1
    have hbreaks : Breaks w ys := by
      intro c hc hmem
      have hblank := hys c (List.mem_of_head? hc)
      rw [hletters c hmem] at hblank
      cases hblank
    obtain ⟨c, hc⟩ := List.exists_mem_of_ne_nil _ htail
    have hword : ∃ c ∈ w, isBlank c = false := ⟨c, List.mem_of_mem_tail hc, hletters c hc⟩
    show strip words (removeWord w 0 (xs ++ ys)) = _
    rw [removeWord_append hbreaks, removeWord_blanks hword hys, ih hwords.2]
    rfl

/-- No modifier goes on into the next one. -/
theorem breaks_modifiers {w : List Char} (hw : w ∈ signModifiers)
    (hmods : ∀ m ∈ mods, m ∈ signModifiers) : Breaks w mods.flatten := by
  obtain ⟨-, -, -, -, hletters, -⟩ := modifier_shape w hw
  intro c hc hmem
  cases mods with
  | nil => cases hc
  | cons m mods =>
    obtain ⟨hblank, -⟩ := modifier_shape m (hmods m List.mem_cons_self)
    rw [List.flatten_cons, List.head?_append, hblank] at hc
    cases hc
    exact absurd (hletters ' ' hmem) (by decide)

theorem removeWord_modifiers {w : List Char} (hw : w ∈ signModifiers)
    (hmods : ∀ m ∈ mods, m ∈ signModifiers) :
    removeWord w 0 mods.flatten = (mods.filter (· ≠ w)).flatten := by
  induction mods with
  | nil => rfl
  | cons m mods ih =>
    rw [List.forall_mem_cons] at hmods
    rw [List.flatten_cons, removeWord_append (breaks_modifiers hw hmods.2),
      removeWord_modifier w hw m hmods.1, ih hmods.2]
    by_cases hm : m = w
    · simp [hm]
    · simp [hm]

theorem strip_append_modifiers (hwords : ∀ w ∈ words, w ∈ signModifiers)
    (hmods : ∀ m ∈ mods, m ∈ signModifiers) :
    strip words (xs ++ mods.flatten) = strip words xs ++ (mods.filter (· ∉ words)).flatten := by
  induction words generalizing xs mods with
  | nil =>
    rw [List.filter_eq_self.2 (by simp)]
    rfl
  | cons w words ih =>
    rw [List.forall_mem_cons] at hwords
    have hfilter : ∀ m ∈ mods.filter (· ≠ w), m ∈ signModifiers := by
      intro m hm
      exact hmods m (List.mem_filter.1 hm).1
    show strip words (removeWord w 0 (xs ++ mods.flatten)) = _
    have hkept : (mods.filter (· ≠ w)).filter (· ∉ words) = mods.filter (· ∉ w :: words) := by
      rw [List.filter_filter]
      refine List.filter_congr fun m _ => ?_
      simp [Bool.and_comm]
    rw [removeWord_append (breaks_modifiers hwords.1 hmods), removeWord_modifiers hwords.1 hmods,
      ih hwords.2 hfilter, hkept]
    rfl

/-- **All modifiers go,** and leave the text that they were appended to as it is without them. -/
theorem strip_modifiers (hmods : ∀ m ∈ mods, m ∈ signModifiers) :
    strip signModifiers (xs ++ mods.flatten) = strip signModifiers xs := by
  have hnone : mods.filter (· ∉ signModifiers) = [] := by
    rw [List.filter_eq_nil_iff]
    intro m hm
    simpa using hmods m hm
  rw [strip_append_modifiers (fun _ => id) hmods, hnone, List.flatten_nil, List.append_nil]

end GridQuery.Dialect
