import GridQuery.Proofs.Plan.Statement

/-!
# The names in a plan

Names come from callers and may hold any characters, quotes and placeholders among them. Read
with the quoting rule of the dialect, each statement of a plan is nevertheless made of its own
names, one placeholder for each value, and words and signs that are the same for every request.

Main result: `Plan.statements_madeOf_names`.
-/

namespace GridQuery

open Sql

/-! ## Names of phrases -/

namespace Sql

/-- The names in a phrase. -/
def names (ph : Phrase) : List String := ph.filterMap Token.name?

@[simp] theorem names_nil : names [] = [] := rfl

@[simp] theorem names_append (ph ph' : Phrase) : names (ph ++ ph') = names ph ++ names ph' :=
  List.filterMap_append

@[simp] theorem names_name (n : String) (ph : Phrase) : names (.name n :: ph) = n :: names ph := rfl

@[simp] theorem names_word (w : String) (ph : Phrase) : names (.word w :: ph) = names ph := rfl

@[simp] theorem names_sign (c : Char) (ph : Phrase) : names (.sign c :: ph) = names ph := rfl

@[simp] theorem names_mark (m : Unit) (ph : Phrase) : names (.mark m :: ph) = names ph := rfl

@[simp] theorem names_between (w : String) : names (between w) = [] := rfl

theorem names_intercalate (sep : Phrase) (hsep : names sep = []) (phs : List Phrase) :
    names (sep.intercalate phs) = phs.flatMap names :=
  filterMap_intercalate Token.name? hsep phs

theorem names_grouped (w : String) (phs : List Phrase) :
    (grouped w phs).toList.flatMap names = phs.flatMap names := by
  cases phs with
  | nil => rfl
  | cons ph phs =>
    have hin := names_intercalate (between w) rfl (ph :: phs)
    simp [grouped, enclosed, hin]

end Sql

theorem TermTest.names_phrase (d : Dialect) (source : String) (t : TermTest) :
    names (t.phrase d source) = [source] := by
  cases d <;> cases t <;> rfl

theorem Condition.names_phrase (c : Condition) : names c.phrase = [c.column] := by
  unfold Condition.phrase
  cases c.comparison <;> rfl

/-- The columns of the tests among contributions. -/
def Contribution.sources (cs : List Contribution) : List String :=
  (cs.filterMap Contribution.test?).map (·.1)

theorem Contribution.names_phrases (d : Dialect) (cs : List Contribution) :
    (phrases d cs).flatMap names = sources cs := by
  rw [phrases, List.flatMap_map, sources, List.map_eq_flatMap]
  exact List.flatMap_congr fun t _ => TermTest.names_phrase d t.1 t.2

theorem Condition.names_phrases (cs : List Condition) :
    (cs.map phrase).flatMap names = cs.map (·.column) := by
  rw [List.flatMap_map, List.map_eq_flatMap]
  exact List.flatMap_congr fun c _ => Condition.names_phrase c

/-! ## What statements are made of -/

/-- The placeholders of `n` values. -/
def Dialect.placeholders : Dialect → Nat → List String
  | .mysql, n => List.replicate n "?"
  | .postgres, n => (List.range n).map fun i => "$" ++ toString (i + 1)

theorem Dialect.map_placeholder (d : Dialect) (n : Nat) :
    (List.range' 1 n).map d.placeholder = d.placeholders n := by
  cases d with
  | mysql =>
    show (List.range' 1 n).map (fun _ => "?") = List.replicate n "?"
    rw [List.map_const', List.length_range']
  | postgres =>
    rw [List.range'_eq_map_range, List.map_map, Dialect.placeholders]
    exact List.map_congr_left fun i _ => by simp [Dialect.placeholder, Nat.add_comm]

/-- Read from left to right, the statement consists of these names in this order, a placeholder
for each of its values, and words and signs that are fixed. -/
def Statement.MadeOf (d : Dialect) (s : Statement) (ns : List String) : Prop :=
  ∃ ts, read d s.sql = some ts ∧ write d ts = s.sql.toList ∧ ts.filterMap Token.name? = ns ∧
    ts.filterMap Token.mark? = d.placeholders s.values.length ∧ ∀ t ∈ ts, t.Fixed

theorem Statement.Reads.madeOf {d : Dialect} {s : Statement} {ph : Phrase} (hs : s.Reads d ph)
    (hl : Legible ph) : s.MadeOf d (names ph) := by
  refine ⟨number d 0 ph, hs.read hl, hs.chars.symm, names_number d 0 ph, ?_,
    fixed_number d 0 hl.2⟩
  rw [marks_number, hs.values, ← Dialect.map_placeholder]

namespace Plan

/-- The columns in the WHERE of the page. -/
def whereNames (r : Request) (schema : Schema) : List String :=
  Contribution.sources (r.search.individual r.columns schema) ++
    Contribution.sources (r.search.global r.columns schema) ++
    r.base.result.map (·.column) ++ r.base.all.map (·.column)

/-- The names in the statement of the page. -/
def dataNames (selected : List SelectedColumn) (r : Request) (schema : Schema) : List String :=
  selected.flatMap (fun c => [c.source, c.source]) ++ [r.table] ++ whereNames r schema ++
    (Order.resolved r.columns schema r.order).flatMap fun k => [r.table, k.1]

theorem names_whereClause (phs : List Phrase) :
    names (whereClause (chained phs)) = phs.flatMap names := by
  cases phs with
  | nil => rfl
  | cons ph phs =>
    have hin := names_intercalate (between "AND") rfl (ph :: phs)
    simp [chained, whereClause, hin]

theorem names_found (d : Dialect) (r : Request) (schema : Schema) :
    names (whereClause (foundPhrase d r schema)) = whereNames r schema := by
  simp only [foundPhrase, names_whereClause, List.flatMap_append, names_grouped,
    Contribution.names_phrases, Condition.names_phrases, whereNames]

theorem names_all (cs : List Condition) :
    names (whereClause (grouped "AND" (cs.map Condition.phrase))) = cs.map (·.column) := by
  have h := names_grouped "AND" (cs.map Condition.phrase)
  rw [Condition.names_phrases] at h
  rw [← h]
  cases grouped "AND" (cs.map Condition.phrase) <;> simp [whereClause]

theorem names_orderClause (table : String) (keys : List (String × Direction)) :
    names (orderClause table keys) = keys.flatMap fun k => [table, k.1] := by
  by_cases h : keys = []
  · simp [orderClause, h]
  · have hin := names_intercalate comma rfl (keys.map (sortPhrase table))
    rw [List.flatMap_map] at hin
    simp only [orderClause, h, if_false, names_append, hin]
    rfl

theorem names_dataPhrase (d : Dialect) (table : String) (selected : List SelectedColumn)
    (w : Option Phrase) (keys : List (String × Direction)) :
    names (dataPhrase d table selected w keys) =
      selected.flatMap (fun c => [c.source, c.source]) ++ [table] ++ names (whereClause w) ++
        keys.flatMap fun k => [table, k.1] := by
  have hselect : ∀ c, names (selectPhrase d c) = [c.source, c.source] := by
    intro c
    cases d <;> rfl
  have hin := names_intercalate comma rfl (selected.map (selectPhrase d))
  rw [List.flatMap_map, List.flatMap_congr fun c _ => hselect c] at hin
  simp [dataPhrase, names_orderClause, hin]

/-- **Whatever its names hold, a plan's statements are made of these names alone.** -/
theorem statements_madeOf_names {d : Dialect} {r : Request} {schema : Schema} {p : Plan}
    (h : ofRequest d r schema = .ok p) :
    p.data.MadeOf d (dataNames p.selected r schema) ∧
      p.filteredCount.MadeOf d (r.table :: whereNames r schema) ∧
      p.totalCount.MadeOf d (r.table :: r.base.all.map (·.column)) := by
  obtain ⟨rs, as, hrs, has, rfl⟩ := ofRequest_ok h
  have hfound := reads_found schema hrs has
  have hall := Predicate.reads_all (Condition.reads_predicates has)
  have hlegible := legible_found d r schema
  refine ⟨?_, ?_, ?_⟩
  · have hdata := (reads_data r.table (select r.columns schema) hfound
      (Order.resolved r.columns schema r.order) r.page).madeOf (legible_data _ _ hlegible _)
    rwa [names_dataPhrase, names_found] at hdata
  · have hcount := (reads_count r.table hfound).madeOf (legible_count r.table hlegible)
    simpa [countPhrase, names_found] using hcount
  · have hcount := (reads_count r.table hall).madeOf
      (legible_count r.table (legible_conditions r.base.all))
    simpa [countPhrase, names_all] using hcount

theorem statements_madeOf_names_hostile :
    ∃ p, ofRequest .postgres hostile hostileSchema = .ok p ∧
      p.data.MadeOf .postgres ["x\"?$1", "x\"?$1", "y` OR 1 = 1", "y` OR 1 = 1", "a\"`b", "x\"?$1",
        "x\"?$1", "y` OR 1 = 1", "` OR 1 = 1", "\"", "a\"`b", "x\"?$1"] := by
  have hplan : ∃ p, ofRequest .postgres hostile hostileSchema = .ok p ∧
      p.selected = select hostile.columns hostileSchema := ⟨_, rfl, rfl⟩
  obtain ⟨p, hp, hselected⟩ := hplan
  have hdata := (statements_madeOf_names hp).1
  have hnames : dataNames p.selected hostile hostileSchema = ["x\"?$1", "x\"?$1", "y` OR 1 = 1",
      "y` OR 1 = 1", "a\"`b", "x\"?$1", "x\"?$1", "y` OR 1 = 1", "` OR 1 = 1", "\"", "a\"`b",
      "x\"?$1"] := by
    rw [hselected]
    decide
  rw [hnames] at hdata
  exact ⟨p, hp, hdata⟩

end Plan

end GridQuery
