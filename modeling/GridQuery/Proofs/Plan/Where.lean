import GridQuery.Proofs.Plan.Statement
import GridQuery.Proofs.Sql.Group

/-!
# What the WHERE of a plan says

The atoms of a WHERE are the predicates of the search entries, of the columns of a global search
and of the base conditions. Read as SQL reads it, the WHERE of the rows found asks for all search
entries, for one column of the global search, and for every base condition; that of the count of
all rows asks for the base conditions on everything.

Main result: `Plan.where_means`.
-/

namespace GridQuery

open Sql

/-! ## Atoms -/

namespace TermTest

/-- A test is one atom wherever it stands. -/
theorem atomic_phrase (d : Dialect) (source : String) (t : TermTest) :
    Atomic d (t.phrase d source) := by
  intro k
  cases t with
  | contains pattern =>
    cases d with
    | mysql =>
      -- This test alone has two groups with words between them: it is put together piece by piece.
      have hlower : Yields [.word "LOWER"] [.token (.word "LOWER")] :=
        .token (by decide) (by decide)
      have hblank : Yields [.sign ' '] (blanks 1) := .token (by decide) (by decide)
      have hlike : Yields [.word "LIKE"] [.token (.word "LIKE")] := .token (by decide) (by decide)
      have hname : Yields [.name source] [.token (.name source)] := .token (by simp) (by simp)
      have hmark : Yields [.mark (Dialect.mysql.placeholder (k + 1))] [.token (.mark _)] :=
        .token (by simp) (by simp)
      have hall := ((((((hlower.append hname.group).append hblank).append hlike).append
        hblank).append hlower).append hmark.group)
      refine ⟨_, hall, ?_, ⟨_, _, rfl, rfl⟩, ⟨_, _, rfl, rfl⟩, ?_⟩
      · simp [Item.isWord, blanks]
      · exact congrArg (fun ts => some (Formula.atom ts)) hall.tokens
    | postgres =>
      exact closed_atom (List.cons_ne_nil _ _) (by simp [phrase, number]) (by simp [phrase, number])
        (by simp [phrase, number])
  | matchesPattern pattern =>
    cases d <;> exact closed_atom (List.cons_ne_nil _ _) (by simp [phrase, number])
      (by simp [phrase, number]) (by simp [phrase, number])
  | equals v =>
    exact closed_atom (List.cons_ne_nil _ _) (by simp [phrase, number]) (by simp [phrase, number])
      (by simp [phrase, number])

end TermTest

/-- A condition is one atom wherever it stands. -/
theorem Condition.atomic_phrase (d : Dialect) (c : Condition) : Atomic d c.phrase := by
  intro k
  unfold Condition.phrase
  cases c.comparison <;> exact closed_atom (List.cons_ne_nil _ _)
    (by simp [Comparison.phrase, Comparison.takesValue, number])
    (by simp [Comparison.phrase, Comparison.takesValue, number])
    (by simp [Comparison.phrase, Comparison.takesValue, number])

theorem Condition.atomic_phrases (d : Dialect) (cs : List Condition) :
    ∀ ph ∈ cs.map phrase, Atomic d ph := by
  intro ph hph
  obtain ⟨c, -, rfl⟩ := List.mem_map.1 hph
  exact Condition.atomic_phrase d c

theorem Contribution.atomic_phrases (d : Dialect) (cs : List Contribution) :
    ∀ ph ∈ phrases d cs, Atomic d ph := by
  intro ph hph
  obtain ⟨t, -, rfl⟩ := List.mem_map.1 hph
  exact TermTest.atomic_phrase d t.1 t.2

theorem Predicate.texts_eq {d : Dialect} {ps : List Predicate} {phs : List Phrase}
    (h : List.Forall₂ (Reads d) ps phs) (k : Nat) :
    (numberAll d k phs).map (fun ts => String.ofList (write d ts)) = texts d k ps := by
  induction h generalizing k with
  | nil => rfl
  | @cons p ph ps phs hp _ ih =>
    have hhead : String.ofList (write d (number d k ph)) = p.sqlFrom d k := by
      rw [← hp.chars, String.ofList_toList]
    rw [numberAll, List.map_cons, hhead, ih, ← hp.values]
    rfl

/-! ## The WHERE of a count -/

/-- The WHERE of the statement is read as the formula; its atoms are the predicates in their order,
and without predicates there is no WHERE. -/
structure Statement.Asks (d : Dialect) (s : Statement) (ps : List Predicate)
    (f : Option Formula) : Prop where
  reads : conditionOf d s.sql = some f
  atoms : (Formula.leaves f).map (fun ts => String.ofList (write d ts)) = Predicate.texts d 0 ps
  absent : f = none ↔ ps = []

namespace Plan

variable {d : Dialect} {r : Request} {schema : Schema}

/-- The condition of a count over groups of atoms is what the groups say together. -/
theorem conditionOf_count {s : Statement} {table : String} {gs : List (Connective × List Phrase)}
    (hs : s.Reads d (countPhrase table (chained (gs.filterMap fun g => grouped g.1.word g.2))))
    (hl : ∀ ph ∈ chained (gs.filterMap fun g => grouped g.1.word g.2), Legible ph)
    (ha : ∀ g ∈ gs, ∀ ph ∈ g.2, Atomic d ph) :
    conditionOf d s.sql = some (Formula.ofGroups (numberGroups d 0 gs)) := by
  have hnumber := numberAll_grouped d 0 gs
  rw [conditionOf, hs.read (legible_count table hl), Option.bind_some]
  -- Without a group there is no WHERE; otherwise the groups stand behind it, joined.
  cases hgs : gs.filterMap fun g => grouped g.1.word g.2 with
  | nil =>
    rw [hgs] at hnumber
    rw [Formula.ofGroups_eq_none.2 hnumber.symm]
    simp [chained, countPhrase, whereClause, number, whereOf]
  | cons ph phs =>
    rw [hgs] at hnumber
    have hne : ((numberGroups d 0 gs).filterMap fun g => grouped g.1.word g.2) ≠ [] := by
      rw [← hnumber]
      exact List.cons_ne_nil _ _
    have hread := Formula.read_groups (closed_numberGroups ha 0) hne
    rw [← hnumber, ← number_between] at hread
    have htail : whereOf (number d 0 (countPhrase table (chained (ph :: phs)))) =
        some (.sign ' ' :: number d 0 ((between "AND").intercalate (ph :: phs))) := by
      simp [chained, countPhrase, whereClause, number, whereOf]
    obtain ⟨f, hf⟩ := Option.ne_none_iff_exists'.1 (mt Formula.ofGroups_eq_none.1 hne)
    rw [htail]
    show (Formula.read _).map some = _
    rw [hread, hf]
    rfl

/-- A count over groups of atoms asks for the groups. -/
theorem asks_count {s : Statement} {table : String} {gs : List (Connective × List Phrase)}
    {ps : List Predicate} (hps : List.Forall₂ (Predicate.Reads d) ps (gs.flatMap (·.2)))
    (hs : s.Reads d (countPhrase table (chained (gs.filterMap fun g => grouped g.1.word g.2))))
    (hl : ∀ ph ∈ chained (gs.filterMap fun g => grouped g.1.word g.2), Legible ph)
    (ha : ∀ g ∈ gs, ∀ ph ∈ g.2, Atomic d ph) :
    s.Asks d ps (Formula.ofGroups (numberGroups d 0 gs)) := by
  have hleaves : Formula.leaves (Formula.ofGroups (numberGroups d 0 gs)) =
      numberAll d 0 (gs.flatMap (·.2)) := by
    rw [Formula.leaves_ofGroups, flatMap_numberGroups]
  have hlength : (numberAll d 0 (gs.flatMap (·.2))).length = ps.length := by
    rw [length_numberAll, hps.length_eq]
  refine ⟨conditionOf_count hs hl ha, ?_, ?_⟩
  · rw [hleaves]
    exact Predicate.texts_eq hps 0
  · rw [← Formula.leaves_eq_nil, hleaves, ← List.length_eq_zero_iff, hlength,
      List.length_eq_zero_iff]

/-! ## The WHERE of a plan -/

/-- The groups of the WHERE of the page. -/
def whereGroups (d : Dialect) (r : Request) (schema : Schema) : List (Connective × List Phrase) :=
  [(.and, Contribution.phrases d (r.search.individual r.columns schema)),
    (.or, Contribution.phrases d (r.search.global r.columns schema)),
    (.and, r.base.result.map Condition.phrase), (.and, r.base.all.map Condition.phrase)]

theorem foundPhrase_eq (d : Dialect) (r : Request) (schema : Schema) :
    foundPhrase d r schema =
      chained ((whereGroups d r schema).filterMap fun g => grouped g.1.word g.2) := by
  rw [foundPhrase, List.filterMap_eq_flatMap_toList]
  simp [whereGroups, Connective.word, List.append_assoc]

theorem grouped_eq_chained (cs : List Condition) :
    grouped "AND" (cs.map Condition.phrase) = chained
      ([(Connective.and, cs.map Condition.phrase)].filterMap fun g => grouped g.1.word g.2) := by
  cases cs with
  | nil => rfl
  | cons c cs => simp [grouped, chained, Connective.word]

theorem atomic_whereGroups (d : Dialect) (r : Request) (schema : Schema) :
    ∀ g ∈ whereGroups d r schema, ∀ ph ∈ g.2, Atomic d ph := by
  intro g hg
  simp only [whereGroups, List.mem_cons, List.not_mem_nil, or_false] at hg
  rcases hg with rfl | rfl | rfl | rfl
  · exact Contribution.atomic_phrases d _
  · exact Contribution.atomic_phrases d _
  · exact Condition.atomic_phrases d _
  · exact Condition.atomic_phrases d _

theorem truth_whereGroups {vi vg vr va : List Bool}
    (hi : vi.length = (Contribution.phrases d (r.search.individual r.columns schema)).length)
    (hg : vg.length = (Contribution.phrases d (r.search.global r.columns schema)).length)
    (hr : vr.length = r.base.result.length) (ha : va.length = r.base.all.length) :
    Formula.truth (Formula.ofGroups (numberGroups d 0 (whereGroups d r schema)))
        (vi ++ vg ++ vr ++ va) =
      (vi.all id && (vg.isEmpty || vg.any id) && vr.all id && va.all id) := by
  have hfour : List.Forall₂ (fun g v => v.length = g.2.length)
      (numberGroups d 0 (whereGroups d r schema)) [vi, vg, vr, va] := by
    simp [whereGroups, numberGroups, hi, hg, hr, ha]
  have htruth := Formula.truth_ofGroups hfour
  have hflat : [vi, vg, vr, va].flatten = vi ++ vg ++ vr ++ va := by simp
  rw [← hflat, htruth]
  simp [whereGroups, numberGroups, Connective.holds, Bool.and_assoc]

theorem truth_conditions {cs : List Condition} {v : List Bool} (h : v.length = cs.length) :
    Formula.truth (Formula.ofGroups (numberGroups d 0 [(.and, cs.map Condition.phrase)])) v =
      v.all id := by
  have hone : List.Forall₂ (fun g v => v.length = g.2.length)
      (numberGroups d 0 [(Connective.and, cs.map Condition.phrase)]) [v] := by
    simp [numberGroups, h]
  have htruth := Formula.truth_ofGroups hone
  have hflat : [v].flatten = v := by simp
  rw [← hflat, htruth]
  simp [numberGroups, Connective.holds]

/-- **The WHERE asks for all search entries, for one column of a global search if there is one, and
for the base conditions.** The truth values are those of the predicates, in their order. -/
theorem where_means {p : Plan} (h : ofRequest d r schema = .ok p) :
    ∃ rs as found all, r.base.result.mapM (Condition.predicate d) = .ok rs ∧
      r.base.all.mapM (Condition.predicate d) = .ok as ∧
      p.filteredCount.Asks d
        (Contribution.predicates d (r.search.individual r.columns schema) ++
          Contribution.predicates d (r.search.global r.columns schema) ++ rs ++ as) found ∧
      p.totalCount.Asks d as all ∧
      ∀ vi vg vr va : List Bool,
        vi.length = (Contribution.predicates d (r.search.individual r.columns schema)).length →
        vg.length = (Contribution.predicates d (r.search.global r.columns schema)).length →
        vr.length = r.base.result.length → va.length = r.base.all.length →
        Formula.truth found (vi ++ vg ++ vr ++ va) =
            (vi.all id && (vg.isEmpty || vg.any id) && vr.all id && va.all id) ∧
          Formula.truth all va = va.all id ∧
          (Formula.truth found (vi ++ vg ++ vr ++ va) → Formula.truth all va) := by
  obtain ⟨rs, as, hrs, has, rfl⟩ := ofRequest_ok h
  have hindividual := Contribution.reads_predicates d (r.search.individual r.columns schema)
  have hglobal := Contribution.reads_predicates d (r.search.global r.columns schema)
  have hresult := Condition.reads_predicates hrs
  have hall := Condition.reads_predicates has
  have hfound := reads_count r.table (reads_found schema hrs has)
  have htotal := reads_count r.table (Predicate.reads_all hall)
  have hlegible := legible_found d r schema
  have hlegible' := legible_conditions r.base.all
  rw [foundPhrase_eq] at hfound hlegible
  rw [grouped_eq_chained] at htotal hlegible'
  -- Both texts are read back the same way; the total count has the last of the four groups only.
  refine ⟨rs, as, _, _, hrs, has, asks_count ?_ hfound hlegible (atomic_whereGroups d r schema),
    asks_count ?_ htotal hlegible' ?_, ?_⟩
  · have hps := List.rel_append (List.rel_append (List.rel_append hindividual hglobal) hresult) hall
    simpa [whereGroups, List.append_assoc] using hps
  · simpa using hall
  · simpa using Condition.atomic_phrases d r.base.all
  · intro vi vg vr va hvi hvg hvr hva
    rw [hindividual.length_eq] at hvi
    rw [hglobal.length_eq] at hvg
    have hfour := truth_whereGroups hvi hvg hvr hva
    have hone := truth_conditions (d := d) hva
    refine ⟨hfour, hone, ?_⟩
    rw [hfour, hone, Bool.and_eq_true]
    exact fun hboth => hboth.2

/-- Without a hit of the global search the hostile request finds nothing. -/
theorem where_means_hostile :
    ∃ p found, ofRequest .postgres hostile hostileSchema = .ok p ∧
      conditionOf .postgres p.filteredCount.sql = some found ∧
      Formula.truth found [true, false, false, true, true] = false := by
  have hplan : ∃ p, ofRequest .postgres hostile hostileSchema = .ok p := ⟨_, rfl⟩
  obtain ⟨p, hp⟩ := hplan
  obtain ⟨rs, as, found, all, -, -, hfound, -, htruth⟩ := where_means hp
  have hnone := (htruth [true] [false, false] [true] [true] (by decide) (by decide) rfl rfl).1
  exact ⟨p, found, hp, hfound.reads, hnone⟩

end Plan

end GridQuery
