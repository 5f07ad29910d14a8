import GridQuery.Proofs.Sql.Modifiers

/-!
# What a raw type's category does not depend on

The category of a raw type is looked up under its bare name: in lower case, without the blanks
around it, without its arguments and, in the MySQL family, without the words about the sign of a
number. What stands before the arguments of a raw type and what stands behind them make up this name
(`bareType_arguments`), whatever the arguments are: only where the name before them is that of the
smallest integers does the whole text decide (`withoutSign_eq_tinyint`).

Main result: `Dialect.category_ignores_noise`.
-/

namespace GridQuery.Dialect

open Text

/-! ## Arguments -/

variable {base args suffix : List Char} {mods : List (List Char)}

theorem trimChars_arguments :
    trimChars (base ++ '(' :: (args ++ ')' :: suffix)) =
      dropBlanks base ++ '(' :: (args ++ ')' :: dropBlanksEnd suffix) := by
  have hopen : isBlank '(' = false := by decide
  have hclose : isBlank ')' = false := by decide
  rw [trimChars, dropBlanks_append_cons hopen, ← List.cons_append, ← List.append_assoc,
    dropBlanksEnd_append_cons hclose]
  simp

theorem bareType_alone (h : '(' ∉ base) : bareType base = (trimChars base).map Char.toLower := by
  have hnone : ∀ c ∈ (trimChars base).map Char.toLower, decide (c ≠ '(') = true := by
    intro c hc
    rw [decide_eq_true_eq]
    rintro rfl
    exact h (trimChars_subset base ((mem_map_toLower (by decide)).1 hc))
  simp only [bareType]
  rw [List.dropWhile_eq_nil_iff.2 hnone]

/-- **The arguments leave nothing behind.** -/
theorem bareType_arguments (hbase : '(' ∉ base) (hsuffix : ')' ∉ suffix) :
    bareType (base ++ '(' :: (args ++ ')' :: suffix)) =
      trimChars ((trimChars base).map Char.toLower ++ (dropBlanksEnd suffix).map Char.toLower) := by
  have hopen : ∀ c ∈ (dropBlanks base).map Char.toLower, decide (c ≠ '(') = true := by
    intro c hc
    rw [decide_eq_true_eq]
    rintro rfl
    exact hbase (dropBlanks_subset base ((mem_map_toLower (by decide)).1 hc))
  have hclose : ∀ c ∈ ((dropBlanksEnd suffix).map Char.toLower).reverse,
      decide (c ≠ ')') = true := by
    intro c hc
    rw [decide_eq_true_eq]
    rintro rfl
    rw [List.mem_reverse, mem_map_toLower (by decide)] at hc
    exact hsuffix (dropBlanksEnd_subset suffix hc)
  have hafter (before : List Char) :
      afterArguments (before ++ ')' :: (dropBlanksEnd suffix).map Char.toLower) =
        (dropBlanksEnd suffix).map Char.toLower := by
    rw [afterArguments, if_pos (by simp), List.reverse_append, List.reverse_cons, List.append_assoc,
      List.takeWhile_append_of_pos hclose]
    simp
  have hpart : '('.toLower = '(' ∧ ')'.toLower = ')' := by decide
  -- The base ends at the first opening parenthesis and the rest begins behind the last closing one.
  simp only [bareType]
  rw [trimChars_arguments, List.map_append, List.map_cons, List.map_append, List.map_cons, hpart.1,
    hpart.2, List.dropWhile_append_of_pos hopen, List.takeWhile_append_of_pos hopen,
    List.dropWhile_cons_of_neg (by simp), List.takeWhile_cons_of_neg (by simp), List.append_nil]
  simp only
  rw [dropBlanksEnd_map_toLower, ← List.cons_append, hafter]
  rfl

/-! ## Stems -/

/-- What stands before the arguments of a raw type once the modifiers are gone: the raw type on its
own would lose the blanks behind it as well. -/
def stem (base : List Char) : List Char := strip signModifiers ((dropBlanks base).map Char.toLower)

theorem exists_stem (base : List Char) :
    ∃ after, Blanks after ∧ stem base = withoutSign base ++ after := by
  obtain ⟨after, hafter, hbase⟩ := exists_dropBlanksEnd (dropBlanks base)
  have hlower : Blanks (after.map Char.toLower) := by
    intro c hc
    obtain ⟨b, hb, rfl⟩ := List.mem_map.1 hc
    rw [isBlank_toLower]
    exact hafter b hb
  refine ⟨after.map Char.toLower, hlower, ?_⟩
  rw [stem, hbase, List.map_append, strip_append_blanks (fun _ => id) hlower, withoutSign_eq,
    trimChars]

theorem trimChars_stem (base : List Char) :
    trimChars (stem base) = trimChars (withoutSign base) := by
  obtain ⟨after, hafter, hstem⟩ := exists_stem base
  have hnil : Blanks [] := nofun
  rw [hstem, ← List.nil_append (withoutSign base ++ after), ← List.append_assoc,
    trimChars_pad hnil hafter]

/-- Without blanks at its end a raw type is stripped to its stem. -/
theorem stem_eq_withoutSign (h : ∀ c ∈ base.getLast?, isBlank c = false) :
    stem base = withoutSign base := by
  rw [stem, withoutSign_eq, trimChars, dropBlanksEnd_eq_self]
  intro c hc
  obtain ⟨before, hbefore⟩ := List.dropWhile_suffix isBlank (l := base)
  refine h c ?_
  rw [← hbefore, List.getLast?_append]
  exact Option.mem_def.2 (by rw [show (base.dropWhile isBlank).getLast? = some c from hc]; rfl)

theorem not_mem_stem (h : '(' ∉ base) : '(' ∉ stem base := fun hmem =>
  h (dropBlanks_subset base ((mem_map_toLower (by decide)).1 (mem_of_mem_strip hmem)))

theorem not_mem_withoutSign (h : '(' ∉ base) : '(' ∉ withoutSign base := fun hmem =>
  h (trimChars_subset base ((mem_map_toLower (by decide)).1 (mem_of_mem_strip hmem)))

theorem withoutSign_arguments :
    withoutSign (base ++ '(' :: (args ++ ')' :: suffix)) =
      stem base ++ '(' :: (strip signModifiers (args.map Char.toLower) ++
        ')' :: strip signModifiers ((dropBlanksEnd suffix).map Char.toLower)) := by
  have hopen : ∀ w ∈ signModifiers, w ≠ [] ∧ '(' ∉ w := by decide
  have hclose : ∀ w ∈ signModifiers, w ≠ [] ∧ ')' ∉ w := by decide
  have hpart : '('.toLower = '(' ∧ ')'.toLower = ')' := by decide
  rw [withoutSign_eq, trimChars_arguments, List.map_append, List.map_cons, List.map_append,
    List.map_cons, hpart.1, hpart.2, strip_append_cons hopen, strip_append_cons hclose, stem]

/-- Only an integer of one digit is a truth value. -/
theorem withoutSign_eq_tinyint (hbase : '(' ∉ base)
    (h : withoutSign (base ++ '(' :: (args ++ ')' :: suffix)) = "tinyint(1)".toList) :
    withoutSign base = "tinyint".toList := by
  -- Up to the parenthesis the spelling is the stem; a blank at its end would be one of the letters.
  have hstem : stem base = "tinyint".toList := by
    have hsplit := congrArg (List.takeWhile (· ≠ '(')) h
    have hmem : ∀ c ∈ stem base, decide (c ≠ '(') = true := by
      intro c hc
      rw [decide_eq_true_eq]
      rintro rfl
      exact not_mem_stem hbase hc
    rw [withoutSign_arguments, List.takeWhile_append_of_pos hmem,
      List.takeWhile_cons_of_neg (by simp), List.append_nil] at hsplit
    rw [hsplit]
    decide
  obtain ⟨after, hafter, hsplit⟩ := exists_stem base
  have hnil : after = [] := by
    refine List.eq_nil_iff_forall_not_mem.2 fun c hc => ?_
    have hletters : ∀ c ∈ "tinyint".toList, isBlank c = false :=
      not_blank_of_all (by decide)
    have hletter := hletters c (hstem ▸ hsplit ▸ List.mem_append_right _ hc)
    rw [hafter c hc] at hletter
    cases hletter
  rw [← hstem, hsplit, hnil, List.append_nil]

/-! ## Modifiers behind a raw type -/

theorem last_modifiers (hlast : ∀ c ∈ base.getLast?, isBlank c = false)
    (hmods : ∀ m ∈ mods, m ∈ signModifiers) :
    ∀ c ∈ (base ++ mods.flatten).getLast?, isBlank c = false := by
  induction mods generalizing base with
  | nil => rwa [List.flatten_nil, List.append_nil]
  | cons m mods ih =>
    rw [List.forall_mem_cons] at hmods
    have hmodifier : ∀ w ∈ signModifiers, w.getLast?.all (fun c => !isBlank c) = true := by decide
    rw [List.flatten_cons, ← List.append_assoc]
    refine ih (fun c hc => ?_) hmods.2
    rw [List.getLast?_append, Option.mem_def, Option.or_eq_some_iff] at hc
    rcases hc with hc | ⟨-, hc⟩
    · exact not_blank_of_last (hmodifier m hmods.1) c hc
    · exact hlast c hc

theorem stem_modifiers (hbase : base ≠ []) (hlast : ∀ c ∈ base.getLast?, isBlank c = false)
    (hmods : ∀ m ∈ mods, m ∈ signModifiers) : stem (base ++ mods.flatten) = stem base := by
  have hlower : mods.flatten.map Char.toLower = mods.flatten := by
    rw [List.map_flatten]
    congr 1
    refine (List.map_congr_left fun m hm => ?_).trans (List.map_id _)
    exact (modifier_shape m (hmods m hm)).2.2.2.2.2
  obtain ⟨before, c, rfl⟩ : ∃ before c, base = before ++ [c] :=
    ⟨_, _, (List.dropLast_concat_getLast hbase).symm⟩
  have hc : isBlank c = false := hlast c (by simp)
  have hdrop : dropBlanks (before ++ [c] ++ mods.flatten) =
      dropBlanks (before ++ [c]) ++ mods.flatten := by
    rw [List.append_assoc, dropBlanks_append_cons hc, List.singleton_append,
      dropBlanks_append_cons hc, List.append_assoc, List.singleton_append]
  rw [stem, hdrop, List.map_append, hlower, strip_modifiers hmods, stem]

/-- **Modifiers behind a raw type are not seen,** unless it is empty. -/
theorem withoutSign_modifiers (hbase : base ≠ []) (hlast : ∀ c ∈ base.getLast?, isBlank c = false)
    (hmods : ∀ m ∈ mods, m ∈ signModifiers) :
    withoutSign (base ++ mods.flatten) = withoutSign base := by
  rw [← stem_eq_withoutSign (last_modifiers hlast hmods), stem_modifiers hbase hlast hmods,
    stem_eq_withoutSign hlast]

/-- With nothing before it, the first modifier loses its blank and is left over. -/
theorem withoutSign_flatten {m : List Char} (hmods : ∀ w ∈ m :: mods, w ∈ signModifiers) :
    withoutSign (m :: mods).flatten = withoutSign m.tail := by
  rw [List.forall_mem_cons] at hmods
  obtain ⟨hblank, -, -, htail, hletters, -⟩ := modifier_shape m hmods.1
  have hlast : ∀ c ∈ m.tail.getLast?, isBlank c = false := fun c hc =>
    hletters c (List.mem_of_getLast? hc)
  have hstart : (m :: mods).flatten = [' '] ++ (m.tail ++ mods.flatten) ++ [] := by
    obtain ⟨letters, rfl⟩ := List.head?_eq_some_iff.1 hblank
    simp
  have hpad : Blanks [' '] ∧ Blanks [] := by decide
  rw [hstart, withoutSign_eq, trimChars_pad hpad.1 hpad.2, ← withoutSign_eq,
    withoutSign_modifiers htail hlast hmods.2]

/-! ## Categories -/

/-- The name under which a raw type is looked up that has arguments between the two texts. -/
def bareName (d : Dialect) (base suffix : List Char) : List Char :=
  match d with
  | .mysql =>
    let rest := strip signModifiers ((dropBlanksEnd suffix).map Char.toLower)
    trimChars ((trimChars (withoutSign base)).map Char.toLower ++
      (dropBlanksEnd rest).map Char.toLower)
  | .postgres =>
    trimChars ((trimChars base).map Char.toLower ++ (dropBlanksEnd suffix).map Char.toLower)

theorem category_mysql (rawType : String) :
    category .mysql rawType =
      if withoutSign rawType.toList = "tinyint(1)".toList then .boolean
      else lookupType .mysql (bareType (withoutSign rawType.toList)) := rfl

theorem category_postgres (rawType : String) :
    category .postgres rawType = lookupType .postgres (bareType rawType.toList) := rfl

variable {d : Dialect}

theorem category_arguments {rawType : String}
    (hraw : rawType.toList = base ++ '(' :: (args ++ ')' :: suffix)) (hbase : '(' ∉ base)
    (hsuffix : ')' ∉ suffix) (hname : d = .mysql → withoutSign base ≠ "tinyint".toList) :
    d.category rawType = lookupType d (bareName d base suffix) := by
  cases d with
  | postgres => rw [category_postgres, hraw, bareType_arguments hbase hsuffix, bareName]
  | mysql =>
    have hrest : ')' ∉ strip signModifiers ((dropBlanksEnd suffix).map Char.toLower) := by
      intro hmem
      have hlower := (mem_map_toLower (by decide)).1 (mem_of_mem_strip hmem)
      exact hsuffix (dropBlanksEnd_subset suffix hlower)
    rw [category_mysql, hraw, if_neg (mt (withoutSign_eq_tinyint hbase) (hname rfl)),
      withoutSign_arguments, bareType_arguments (not_mem_stem hbase) hrest, trimChars_stem,
      bareName]

/-- Without arguments a raw type is looked up under the same name. -/
theorem category_alone {rawType : String} (hraw : rawType.toList = base) (hbase : '(' ∉ base) :
    d.category rawType = lookupType d (bareName d base []) := by
  have htrim (cs : List Char) :
      trimChars ((trimChars cs).map Char.toLower ++ []) = (trimChars cs).map Char.toLower := by
    rw [List.append_nil, trimChars_map_toLower, trimChars_eq_self (tight_trimChars cs)]
  cases d with
  | postgres =>
    have hrest : (dropBlanksEnd []).map Char.toLower = [] := rfl
    rw [category_postgres, hraw, bareType_alone hbase, bareName, hrest, htrim]
  | mysql =>
    have hrest :
        (dropBlanksEnd (strip signModifiers ((dropBlanksEnd []).map Char.toLower))).map
          Char.toLower = [] := rfl
    have hone : withoutSign base ≠ "tinyint(1)".toList := by
      intro h
      have hmem : '(' ∈ "tinyint(1)".toList := by decide
      rw [← h] at hmem
      exact not_mem_withoutSign hbase hmem
    rw [category_mysql, hraw, if_neg hone, bareType_alone (not_mem_withoutSign hbase), bareName]
    simp only [hrest, htrim]

/-- Blanks around a raw type and the case of its letters do not matter. -/
theorem category_congr {rawType other : String}
    (h : (trimChars other.toList).map Char.toLower = (trimChars rawType.toList).map Char.toLower) :
    d.category other = d.category rawType := by
  have hbare : bareType other.toList = bareType rawType.toList := by
    simp only [bareType, h]
  cases d with
  | postgres => rw [category_postgres, category_postgres, hbare]
  | mysql => rw [category_mysql, category_mysql, withoutSign_eq, withoutSign_eq, h]

/-- Where the name is that of the smallest integers, one digit means a truth value. -/
theorem category_tinyint {base : String} (hname : withoutSign base.toList = "tinyint".toList)
    (hlast : ∀ c ∈ base.toList.getLast?, isBlank c = false) :
    category .mysql (base ++ "(1)") = .boolean ∧ category .mysql (base ++ "(4)") = .integer := by
  have hstem : stem base.toList = "tinyint".toList := by
    rw [stem_eq_withoutSign hlast, hname]
  have hwithout (digit : Char) :
      withoutSign (base.toList ++ '(' :: ([digit] ++ ')' :: [])) =
        "tinyint".toList ++ '(' :: (strip signModifiers [digit.toLower] ++ [')']) := by
    rw [withoutSign_arguments, hstem]
    rfl
  rw [category_mysql, category_mysql, String.toList_append, String.toList_append]
  constructor
  · have hone := hwithout '1'
    rw [show "(1)".toList = '(' :: (['1'] ++ ')' :: []) from rfl, hone]
    decide
  · have hfour := hwithout '4'
    rw [show "(4)".toList = '(' :: (['4'] ++ ')' :: []) from rfl, hfour]
    decide

theorem category_modifiers {rawType : String} {mods : List String}
    (hlast : ∀ c ∈ rawType.toList.getLast?, isBlank c = false)
    (hmods : ∀ m ∈ mods, m ∈ [" unsigned", " signed", " zerofill"]) :
    category .mysql (rawType ++ String.join mods) = category .mysql rawType := by
  have htoList : (rawType ++ String.join mods).toList =
      rawType.toList ++ (mods.map String.toList).flatten := by
    rw [String.toList_append, String.toList_join, List.flatMap_def]
  have hsign : ∀ m ∈ mods.map String.toList, m ∈ signModifiers := by
    intro m hm
    obtain ⟨text, htext, rfl⟩ := List.mem_map.1 hm
    exact List.mem_map_of_mem (hmods text htext)
  rw [category_mysql, htoList]
  by_cases hraw : rawType.toList = []
  · -- What is left over is in no table, and neither is the empty name.
    have hleft : ∀ w ∈ signModifiers, withoutSign w.tail ≠ "tinyint(1)".toList ∧
        lookupType .mysql (bareType (withoutSign w.tail)) = .unknown := by
      decide
    have hempty : category .mysql "" = .unknown := by decide
    rw [String.toList_eq_nil_iff.1 hraw, hempty, String.toList_empty, List.nil_append]
    cases mods with
    | nil => decide
    | cons m mods =>
      obtain ⟨hname, hlookup⟩ := hleft m.toList (hsign _ List.mem_cons_self)
      rw [List.map_cons, withoutSign_flatten hsign, if_neg hname, hlookup]
  · rw [withoutSign_modifiers hraw hlast hsign, ← category_mysql]

/-- **Noise in the spelling of a raw type does not change its category.** Blanks around it and the
case of its letters never matter. Its arguments may be any text, or missing, but for the digit of
the smallest integers, which does matter. In the MySQL family modifiers may be appended. -/
theorem category_ignores_noise (d : Dialect) :
    (∀ rawType other before after : String, Blanks before.toList → Blanks after.toList →
      asciiLower other = asciiLower rawType →
        d.category (before ++ other ++ after) = d.category rawType) ∧
    (∀ base suffix : String, '(' ∉ base.toList → ')' ∉ suffix.toList →
      (d = .mysql → withoutSign base.toList ≠ "tinyint".toList) →
        (∀ args other : String, d.category (base ++ "(" ++ args ++ ")" ++ suffix) =
          d.category (base ++ "(" ++ other ++ ")" ++ suffix)) ∧
        (suffix = "" → ∀ args : String,
          d.category (base ++ "(" ++ args ++ ")" ++ suffix) = d.category base)) ∧
    (∀ base : String, withoutSign base.toList = "tinyint".toList →
      (∀ c ∈ base.toList.getLast?, isBlank c = false) →
        category .mysql (base ++ "(1)") = .boolean ∧ category .mysql (base ++ "(4)") = .integer) ∧
    (∀ (rawType : String) (mods : List String),
      (∀ c ∈ rawType.toList.getLast?, isBlank c = false) →
      (∀ m ∈ mods, m ∈ [" unsigned", " signed", " zerofill"]) →
        category .mysql (rawType ++ String.join mods) = category .mysql rawType) := by
  -- The digit and the modifiers have their own theorems; left are the case and the arguments.
  refine ⟨?_, ?_, fun _ => category_tinyint, fun _ _ => category_modifiers⟩
  · intro rawType other before after hbefore hafter hcase
    refine category_congr ?_
    have hletters := congrArg String.toList hcase
    rw [asciiLower, asciiLower, String.toList_ofList, String.toList_ofList] at hletters
    rw [String.toList_append, String.toList_append, trimChars_pad hbefore hafter,
      ← trimChars_map_toLower, hletters, trimChars_map_toLower]
  · intro base suffix hbase hsuffix hname
    have hraw (args : String) : (base ++ "(" ++ args ++ ")" ++ suffix).toList =
        base.toList ++ '(' :: (args.toList ++ ')' :: suffix.toList) := by
      simp
    constructor
    · intro args other
      rw [category_arguments (hraw args) hbase hsuffix hname,
        category_arguments (hraw other) hbase hsuffix hname]
    · intro hempty args
      rw [category_arguments (hraw args) hbase hsuffix hname, category_alone rfl hbase, hempty,
        String.toList_empty]

/-- Members of an enumeration may hold a modifier and parentheses. -/
theorem category_ignores_noise_members :
    (Blanks "\t".toList ∧ Blanks "\n ".toList ∧
      asciiLower "ENUM('Y', 'n')" = asciiLower "Enum('y', 'N')" ∧
      category .mysql ("\t" ++ "ENUM('Y', 'n')" ++ "\n ") = category .mysql "Enum('y', 'N')") ∧
    ('(' ∉ "enum".toList ∧ ')' ∉ "".toList ∧ withoutSign "enum".toList ≠ "tinyint".toList ∧
      category .mysql ("enum" ++ "(" ++ "'a unsigned', 'b) zerofill('" ++ ")" ++ "") =
        category .mysql "enum" ∧
      category .mysql "enum" = .text) ∧
    (withoutSign "TinyInt Unsigned".toList = "tinyint".toList ∧
      category .mysql ("TinyInt Unsigned" ++ "(1)") = .boolean) ∧
    (∀ m ∈ [" zerofill", " unsigned", " zerofill"], m ∈ [" unsigned", " signed", " zerofill"]) ∧
      category .mysql ("tinyint(1)" ++ String.join [" zerofill", " unsigned", " zerofill"]) =
        category .mysql "tinyint(1)" ∧
      category .mysql "tinyint(1)" = .boolean := by
  obtain ⟨hpad, harguments, hdigit, hmodifiers⟩ := category_ignores_noise .mysql
  have hblank : Blanks "\t".toList ∧ Blanks "\n ".toList := by decide
  have hcase : asciiLower "ENUM('Y', 'n')" = asciiLower "Enum('y', 'N')" := by decide
  have hparens : '(' ∉ "enum".toList ∧ ')' ∉ "".toList := by decide
  have henum : withoutSign "enum".toList ≠ "tinyint".toList := by decide
  have htiny : withoutSign "TinyInt Unsigned".toList = "tinyint".toList := by decide
  have hmods : ∀ m ∈ [" zerofill", " unsigned", " zerofill"],
      m ∈ [" unsigned", " signed", " zerofill"] := by decide
  refine ⟨⟨hblank.1, hblank.2, hcase, hpad _ _ _ _ hblank.1 hblank.2 hcase⟩,
    ⟨hparens.1, hparens.2, henum, ?_, by decide⟩, ⟨htiny, ?_⟩, hmods, ?_, by decide⟩
  · exact (harguments "enum" "" hparens.1 hparens.2 fun _ => henum).2 rfl _
  · exact (hdigit "TinyInt Unsigned" htiny (not_blank_of_last (by decide))).1
  · exact hmodifiers "tinyint(1)" _ (not_blank_of_last (by decide)) hmods

end GridQuery.Dialect
