import GridQuery.Proofs.Plan.Assembly
import GridQuery.Proofs.Plan.Page

/-!
# The outline of a plan

What a statement asks for can be told apart from how its dialect writes it: the values that are
bound, whether there is a WHERE, and the directions that are sorted in. Names, placeholders and
the forms of tests differ between dialects, their outline does not.

Main results: `Plan.outline_data` and `Plan.outline_count`, the outlines of a plan without its
dialect, and `Plan.agree_dialects`.
-/

namespace GridQuery

open Sql

/-! ## Landmarks -/

namespace Sql

/-- A word that shows how a statement is built. -/
inductive Landmark where
  /-- The beginning of a WHERE. -/
  | restriction
  /-- The end of a sort item. -/
  | sorted (dir : Direction)
deriving DecidableEq

def Landmark.ofWord? (w : String) : Option Landmark :=
  if w = "WHERE" then some .restriction
  else if w = "ASC" then some (.sorted .asc)
  else if w = "DESC" then some (.sorted .desc)
  else none

/-- The direction of a sort item. -/
def Landmark.direction? : Landmark → Option Direction
  | .sorted dir => some dir
  | .restriction => none

def Token.landmark? {μ : Type} : Token μ → Option Landmark
  | .word w => Landmark.ofWord? w
  | _ => none

@[simp] theorem Token.landmark?_forget {μ : Type} (t : Token μ) :
    t.forget.landmark? = t.landmark? := by
  cases t <;> rfl

/-- The landmarks of a phrase. -/
def landmarks (ph : Phrase) : List Landmark := ph.filterMap Token.landmark?

@[simp] theorem landmarks_nil : landmarks [] = [] := rfl

@[simp] theorem landmarks_append (ph ph' : Phrase) :
    landmarks (ph ++ ph') = landmarks ph ++ landmarks ph' :=
  List.filterMap_append

@[simp] theorem landmarks_name (n : String) (ph : Phrase) :
    landmarks (.name n :: ph) = landmarks ph := rfl

@[simp] theorem landmarks_sign (c : Char) (ph : Phrase) :
    landmarks (.sign c :: ph) = landmarks ph := rfl

@[simp] theorem landmarks_mark (m : Unit) (ph : Phrase) :
    landmarks (.mark m :: ph) = landmarks ph := rfl

theorem landmarks_intercalate {sep : Phrase} (hsep : landmarks sep = []) (phs : List Phrase) :
    landmarks (sep.intercalate phs) = phs.flatMap landmarks :=
  filterMap_intercalate Token.landmark? hsep phs

theorem isSome_grouped {μ : Type} (w : String) (tss : List (List (Token μ))) :
    (grouped w tss).isSome = !tss.isEmpty := by
  cases tss <;> rfl

theorem isSome_chained (phs : List Phrase) : (chained phs).isSome = !phs.isEmpty := by
  cases phs <;> rfl

end Sql

/-- The words of conditions are no landmarks. -/
theorem landmarks_eq_nil {ph : Phrase} (h : Over conditionWords ph) : landmarks ph = [] := by
  have hall : ∀ w ∈ conditionWords, Landmark.ofWord? w = none := by decide
  refine List.filterMap_eq_nil_iff.2 fun t ht => ?_
  cases t with
  | word w => exact hall w (h w ht)
  | _ => rfl

/-! ## Outlines -/

/-- What a statement asks for. -/
structure Outline where
  values : List Value
  /-- There is a WHERE. -/
  restricted : Bool
  /-- The direction of each sort item, in their order. -/
  directions : List Direction
deriving DecidableEq

/-- The outline of a statement with these landmarks. -/
def Outline.ofLandmarks (values : List Value) (ls : List Landmark) : Outline :=
  ⟨values, ls.contains .restriction, ls.filterMap Landmark.direction?⟩

/-- The outline of a statement as the dialect reads it. -/
def Statement.outline? (d : Dialect) (s : Statement) : Option Outline :=
  (read d s.sql).map fun ts => .ofLandmarks s.values (ts.filterMap Token.landmark?)

theorem Statement.Reads.outline {d : Dialect} {s : Statement} {ph : Phrase} (hs : s.Reads d ph)
    (hl : Legible ph) : s.outline? d = some (.ofLandmarks s.values (landmarks ph)) := by
  rw [outline?, hs.read hl, Option.map_some, filterMap_number Token.landmark?_forget]
  rfl

/-- The statements ask for the same, each in its dialect. -/
def Statement.Alike (d d' : Dialect) (s s' : Statement) : Prop :=
  ∃ o, s.outline? d = some o ∧ s'.outline? d' = some o

/-- A restriction and sort items are told apart. -/
theorem Outline.ofLandmarks_eq (values : List Value) (restricted : Bool)
    (directions : List Direction) :
    ofLandmarks values ((if restricted then [.restriction] else []) ++ directions.map .sorted) =
      ⟨values, restricted, directions⟩ := by
  have hdirections : (directions.map Landmark.sorted).filterMap Landmark.direction? =
      directions := by
    rw [List.filterMap_map]
    exact List.filterMap_some
  cases restricted <;> simp [ofLandmarks, List.filterMap_cons, Landmark.direction?, hdirections]

namespace Plan

variable {d d' : Dialect} {r : Request} {schema : Schema} {p p' : Plan}

theorem landmarks_whereClause {w : Option Phrase} (h : ∀ ph ∈ w, Over conditionWords ph) :
    landmarks (whereClause w) = if w.isSome then [.restriction] else [] := by
  cases w with
  | none => rfl
  | some ph =>
    rw [whereClause, landmarks_append, landmarks_eq_nil (h ph rfl)]
    rfl

theorem landmarks_orderClause (table : String) (keys : List (String × Direction)) :
    landmarks (orderClause table keys) = (keys.map (·.2)).map .sorted := by
  by_cases h : keys = []
  · subst h
    rfl
  · have hitem : ∀ k : String × Direction, landmarks (sortPhrase table k) = [.sorted k.2] := by
      rintro ⟨n, dir⟩
      cases dir <;> rfl
    rw [orderClause, if_neg h, landmarks_append, landmarks_intercalate rfl, List.flatMap_map,
      List.flatMap_congr fun k _ => hitem k, ← List.map_eq_flatMap, List.map_map]
    rfl

theorem landmarks_dataPhrase (d : Dialect) (table : String) (selected : List SelectedColumn)
    (w : Option Phrase) (keys : List (String × Direction)) :
    landmarks (dataPhrase d table selected w keys) =
      landmarks (whereClause w) ++ (keys.map (·.2)).map .sorted := by
  have hselect : ∀ c, landmarks (selectPhrase d c) = [] := by
    intro c
    cases d <;> rfl
  have hselected : landmarks (comma.intercalate (selected.map (selectPhrase d))) = [] := by
    rw [landmarks_intercalate rfl, List.flatMap_map]
    exact List.flatMap_eq_nil_iff.2 fun c _ => hselect c
  have hkeywords : landmarks ([.word "SELECT", .sign ' '] : Phrase) = [] ∧
      landmarks (between "FROM" : Phrase) = [] ∧ landmarks (between "LIMIT" : Phrase) = [] ∧
      landmarks (between "OFFSET" : Phrase) = [] := ⟨rfl, rfl, rfl, rfl⟩
  obtain ⟨hopen, hfrom, hlimit, hoffset⟩ := hkeywords
  simp only [dataPhrase, landmarks_append, hopen, hselected, hfrom, hlimit, hoffset,
    landmarks_orderClause, landmarks_name, landmarks_mark, landmarks_nil, List.nil_append,
    List.append_nil]

theorem landmarks_countPhrase (table : String) (w : Option Phrase) :
    landmarks (countPhrase table w) = landmarks (whereClause w) := by
  rw [countPhrase, landmarks_append, landmarks_append]
  rfl

/-- The page is restricted: a search or a base condition restricts it. -/
def isRestricted (r : Request) (schema : Schema) : Bool :=
  !(((r.search.individual r.columns schema).filterMap Contribution.test?).isEmpty &&
    ((r.search.global r.columns schema).filterMap Contribution.test?).isEmpty &&
    r.base.isEmpty)

theorem isSome_foundPhrase (d : Dialect) (r : Request) (schema : Schema) :
    (foundPhrase d r schema).isSome = isRestricted r schema := by
  have hempty : ∀ (w : String) (phs : List Phrase),
      (grouped w phs).toList.isEmpty = phs.isEmpty := by
    intro w phs
    cases phs <;> rfl
  have happend : ∀ phs phs' : List Phrase,
      (phs ++ phs').isEmpty = (phs.isEmpty && phs'.isEmpty) := by
    intro phs phs'
    cases phs <;> rfl
  simp only [foundPhrase, isSome_chained, isRestricted, happend, hempty, Contribution.phrases,
    List.isEmpty_map, BaseConditions.isEmpty, Bool.and_assoc]

/-- **What the page of a plan asks for.** -/
theorem outline_data (h : ofRequest d r schema = .ok p) :
    p.data.outline? d = some ⟨p.data.values, isRestricted r schema,
      (Order.resolved r.columns schema r.order).map (·.2)⟩ := by
  obtain ⟨rs, as, hrs, has, rfl⟩ := ofRequest_ok h
  have hreads := reads_data r.table (select r.columns schema) (reads_found schema hrs has)
    (Order.resolved r.columns schema r.order) r.page
  have houtline := hreads.outline (legible_data _ _ (legible_found d r schema) _)
  rw [landmarks_dataPhrase, landmarks_whereClause (over_found d r schema),
    isSome_foundPhrase, Outline.ofLandmarks_eq] at houtline
  exact houtline

/-- A count asks for its WHERE alone. -/
theorem outline_count (table : String) {q : Option Predicate} {w : Option Phrase}
    (hq : Option.Rel (Predicate.Reads d) q w) (hlegible : ∀ ph ∈ w, Legible ph)
    (hplain : ∀ ph ∈ w, Over conditionWords ph) :
    (countStatement d table q).outline? d =
      some ⟨(countStatement d table q).values, w.isSome, []⟩ := by
  rw [(reads_count table hq).outline (legible_count table hlegible), landmarks_countPhrase,
    landmarks_whereClause hplain, ← Outline.ofLandmarks_eq _ _ [], List.map_nil, List.append_nil]

/-- **What the counts of a plan ask for.** -/
theorem outline_counts (h : ofRequest d r schema = .ok p) :
    p.filteredCount.outline? d = some ⟨p.filteredCount.values, isRestricted r schema, []⟩ ∧
      p.totalCount.outline? d = some ⟨p.totalCount.values, !r.base.all.isEmpty, []⟩ := by
  obtain ⟨rs, as, hrs, has, rfl⟩ := ofRequest_ok h
  have hall := Predicate.reads_all (Condition.reads_predicates has)
  have hfiltered := outline_count r.table (reads_found schema hrs has)
    (legible_found d r schema) (over_found d r schema)
  have htotal := outline_count r.table hall (legible_conditions r.base.all)
    (over_conditions r.base.all)
  rw [isSome_foundPhrase] at hfiltered
  rw [isSome_grouped, List.isEmpty_map] at htotal
  exact ⟨hfiltered, htotal⟩

end Plan

/-! ## Values -/

/-- The value that a test binds. -/
def TermTest.value : TermTest → Value
  | .contains pattern => .text pattern
  | .matchesPattern pattern => .text pattern
  | .equals v => v

theorem TermTest.values_predicate (d : Dialect) (source : String) (t : TermTest) :
    (t.predicate d source).values = [t.value] := by
  cases d <;> cases t <;> rfl

theorem Contribution.values_predicates (d : Dialect) (cs : List Contribution) :
    (predicates d cs).flatMap Predicate.values = (cs.filterMap test?).map (·.2.value) := by
  rw [predicates, List.flatMap_map, List.map_eq_flatMap]
  exact List.flatMap_congr fun t _ => TermTest.values_predicate d t.1 t.2

/-- A condition is refused in all dialects or in none, and binds the same in all. -/
theorem Condition.agree_values (d d' : Dialect) (c : Condition) :
    Agree (fun p p' => p'.values = p.values) (c.predicate d) (c.predicate d') := by
  unfold predicate
  cases c.comparison.takesValue with
  | false => exact .made (by simp)
  | true =>
    cases c.value with
    | none => exact .fault _
    | some v => exact .made (by simp)

theorem flatMap_values {ps ps' : List Predicate}
    (h : List.Forall₂ (fun p p' => p'.values = p.values) ps ps') :
    ps'.flatMap Predicate.values = ps.flatMap Predicate.values := by
  rw [List.flatMap_def, List.flatMap_def, map_eq_of_forall₂ h]

namespace Plan

variable {d d' : Dialect} {r : Request} {schema : Schema}

theorem whereValues_eq (q : Option Predicate) :
    whereValues q = q.toList.flatMap Predicate.values := by
  cases q <;> simp [whereValues]

/-- The values of the WHERE are those of its groups in their order. -/
theorem values_found (d : Dialect) (r : Request) (schema : Schema) (rs as : List Predicate) :
    whereValues (found d r schema rs as) =
      ((r.search.individual r.columns schema).filterMap Contribution.test?).map (·.2.value) ++
      ((r.search.global r.columns schema).filterMap Contribution.test?).map (·.2.value) ++
      rs.flatMap Predicate.values ++ as.flatMap Predicate.values := by
  rw [whereValues_eq, found_eq, Predicate.values_conjunction, List.flatMap_append,
    List.flatMap_append, List.flatMap_append]
  simp only [Predicate.all, Predicate.any, Predicate.values_group,
    Contribution.values_predicates]

/-! ## Two dialects -/

/-- The plans differ in the text of their statements only. -/
structure Alike (d d' : Dialect) (p p' : Plan) : Prop where
  table : p'.table = p.table
  selected : p'.selected = p.selected
  data : p.data.Alike d d' p'.data
  filteredCount : p.filteredCount.Alike d d' p'.filteredCount
  totalCount : p.totalCount.Alike d d' p'.totalCount

/-- The values of the three statements. -/
theorem values_assembled (d : Dialect) (r : Request) (schema : Schema) (rs as : List Predicate) :
    (assembled d r schema rs as).data.values = whereValues (found d r schema rs as) ++
        [.ofNat r.page.limit, .ofNat r.page.offset] ∧
      (assembled d r schema rs as).filteredCount.values =
        whereValues (found d r schema rs as) ∧
      (assembled d r schema rs as).totalCount.values = as.flatMap Predicate.values := by
  refine ⟨?_, values_count _ _, ?_⟩
  · rw [assembled, data_eq]
  · rw [assembled, values_count, whereValues_eq, Predicate.all, Predicate.values_group]

/-- **A request has a plan in all dialects or in none, and what it asks for is the same in all.** -/
theorem agree_dialects (d d' : Dialect) (r : Request) (schema : Schema) :
    Agree (Alike d d') (ofRequest d r schema) (ofRequest d' r schema) := by
  have hconditions : ∀ cs : List Condition,
      Agree (List.Forall₂ fun p p' => p'.values = p.values)
        (cs.mapM (Condition.predicate d)) (cs.mapM (Condition.predicate d')) := fun cs =>
    .mapM (List.forall₂_same.2 fun c _ => rfl) fun c c' hc => hc ▸ c.agree_values d d'
  refine (agree_ofRequest rfl rfl (hconditions _) (hconditions _)).imp ?_
  rintro p p' hp hp' ⟨rs, as, rs', as', hrs, has, rfl, rfl⟩
  obtain ⟨hdata, hfiltered, htotal⟩ := values_assembled d r schema rs as
  obtain ⟨hdata', hfiltered', htotal'⟩ := values_assembled d' r schema rs' as'
  have hfound : whereValues (found d' r schema rs' as') = whereValues (found d r schema rs as) := by
    rw [values_found, values_found, flatMap_values hrs, flatMap_values has]
  rw [hfound] at hdata' hfiltered'
  rw [flatMap_values has] at htotal'
  refine ⟨rfl, rfl, ⟨_, outline_data hp, ?_⟩, ⟨_, (outline_counts hp).1, ?_⟩,
    ⟨_, (outline_counts hp).2, ?_⟩⟩
  · rw [outline_data hp', hdata, hdata']
  · rw [(outline_counts hp').1, hfiltered, hfiltered']
  · rw [(outline_counts hp').2, htotal, htotal']

end Plan

end GridQuery
