import GridQuery.Proofs.Text.Trim
import GridQuery.Text.Case

/-!
# Lower case and blanks

Only the letters A to Z change their case, and they change it into letters. So every other character
is where it was in a text in lower case, blanks among them, and trimming a text and lowering its
letters can be done in either order.

Main results: `Text.toLower_eq_iff` and `Text.trimChars_map_toLower`.
-/

namespace GridQuery.Text

/-! ## Characters -/

/-- A character keeps its case, or it is a letter that becomes another one. -/
theorem toLower_cases (c : Char) :
    c.toLower = c ∨ (65 ≤ c.toNat ∧ c.toNat ≤ 90) ∧ c.toLower.toNat = c.toNat + 32 := by
  unfold Char.toLower
  split
  · rename_i h
    have hupper : 65 ≤ c.toNat ∧ c.toNat ≤ 90 := by
      simpa [UInt32.le_iff_toNat_le] using h
    refine .inr ⟨hupper, ?_⟩
    show (c.val + 32).toNat = c.toNat + 32
    have hc : c.val.toNat = c.toNat := rfl
    have h32 : (32 : UInt32).toNat = 32 := rfl
    rw [UInt32.toNat_add]
    omega
  · exact .inl rfl

theorem isBlank_of_letter {c : Char} (h : 65 ≤ c.toNat ∧ c.toNat ≤ 122) : isBlank c = false := by
  simp only [isBlank, Bool.or_eq_false_iff, Bool.and_eq_false_iff, decide_eq_false_iff_not,
    beq_eq_false_iff_ne]
  omega

theorem isBlank_toLower (c : Char) : isBlank c.toLower = isBlank c := by
  rcases toLower_cases c with h | ⟨hupper, hlower⟩
  · rw [h]
  · rw [isBlank_of_letter (by omega), isBlank_of_letter (by omega)]

/-- Blanks have no case. -/
theorem toLower_of_isBlank {c : Char} (h : isBlank c = true) : c.toLower = c := by
  rcases toLower_cases c with hsame | ⟨hupper, -⟩
  · exact hsame
  · rw [isBlank_of_letter (by omega)] at h
    cases h

/-- The character is a letter A to Z, large or small. -/
theorem isAlpha_iff {c : Char} :
    c.isAlpha = true ↔ 65 ≤ c.toNat ∧ c.toNat ≤ 90 ∨ 97 ≤ c.toNat ∧ c.toNat ≤ 122 := by
  show (decide (c.val ≥ 65 ∧ c.val ≤ 90) ||
    (decide (c.val ≥ 97) && decide (c.val ≤ 122))) = true ↔ _
  simp only [Bool.or_eq_true, Bool.and_eq_true, decide_eq_true_eq, ge_iff_le,
    UInt32.le_iff_toNat_le]
  exact Iff.rfl

/-- What is no letter comes from itself only. -/
theorem toLower_eq_iff {c d : Char} (hd : d.isAlpha = false) : c.toLower = d ↔ c = d := by
  have hletter := mt isAlpha_iff.2 (Bool.eq_false_iff.1 hd)
  rcases toLower_cases c with h | ⟨hupper, hlower⟩
  · rw [h]
  · refine iff_of_false ?_ ?_
    · rintro rfl
      omega
    · rintro rfl
      omega

theorem isAlpha_of_isDigit {c : Char} (h : c.isDigit = true) : c.isAlpha = false := by
  have hrange : 48 ≤ c.toNat ∧ c.toNat ≤ 57 := by
    simpa [Char.isDigit, UInt32.le_iff_toNat_le] using h
  rw [Bool.eq_false_iff, Ne, isAlpha_iff]
  omega

/-! ## Texts -/

variable {cs : List Char}

theorem map_toLower_digit {d : Char} (hd : d.isDigit = true) :
    cs.map Char.toLower = [d] ↔ cs = [d] := by
  rw [List.map_eq_singleton_iff]
  constructor
  · rintro ⟨c, rfl, hc⟩
    rw [(toLower_eq_iff (isAlpha_of_isDigit hd)).1 hc]
  · rintro rfl
    exact ⟨d, rfl, (toLower_eq_iff (isAlpha_of_isDigit hd)).2 rfl⟩

theorem mem_map_toLower {d : Char} (hd : d.isAlpha = false) :
    d ∈ cs.map Char.toLower ↔ d ∈ cs := by
  simp [List.mem_map, toLower_eq_iff hd]

theorem dropBlanks_map_toLower (cs : List Char) :
    dropBlanks (cs.map Char.toLower) = (dropBlanks cs).map Char.toLower := by
  rw [dropBlanks, List.dropWhile_map, dropBlanks]
  congr 2
  funext c
  exact isBlank_toLower c

theorem dropBlanksEnd_map_toLower (cs : List Char) :
    dropBlanksEnd (cs.map Char.toLower) = (dropBlanksEnd cs).map Char.toLower := by
  have hdrop := dropBlanks_map_toLower cs.reverse
  rw [dropBlanks, dropBlanks] at hdrop
  rw [dropBlanksEnd, ← List.map_reverse, hdrop, ← List.map_reverse, dropBlanksEnd]

/-- **Trimming and lowering can change places.** -/
theorem trimChars_map_toLower (cs : List Char) :
    trimChars (cs.map Char.toLower) = (trimChars cs).map Char.toLower := by
  rw [trimChars, dropBlanks_map_toLower, dropBlanksEnd_map_toLower, trimChars]

end GridQuery.Text
