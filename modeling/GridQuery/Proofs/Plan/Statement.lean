import GridQuery.Proofs.Plan.Phrase

/-!
# The statements of a plan

A plan that is made is made from the columns that are selected, the predicates of the base
conditions and the sort keys that can be sorted by (`Plan.ofRequest_ok`); each of its statements
is written as one phrase.

Main results: `Plan.reads_data` and `Plan.reads_count`, with `Plan.legible_data` and
`Plan.legible_count`, by which the reader gives these phrases back.
-/

namespace GridQuery.Plan

open Sql

variable {d : Dialect} {r : Request} {schema : Schema}

/-! ## What a plan is made from -/

/-- The WHERE of the page, given the predicates of the base conditions. -/
def found (d : Dialect) (r : Request) (schema : Schema) (rs as : List Predicate) :
    Option Predicate :=
  Predicate.conjunction ((Filter.ofSearch d r.columns schema r.search).predicate.toList ++
    (Predicate.all rs).toList ++ (Predicate.all as).toList)

/-- The four groups of the WHERE stand side by side. -/
theorem found_eq (d : Dialect) (r : Request) (schema : Schema) (rs as : List Predicate) :
    found d r schema rs as = Predicate.conjunction (
      (Predicate.all (Contribution.predicates d (r.search.individual r.columns schema))).toList ++
      (Predicate.any (Contribution.predicates d (r.search.global r.columns schema))).toList ++
      (Predicate.all rs).toList ++ (Predicate.all as).toList) := by
  rw [found, Filter.predicate, List.append_assoc, Predicate.conjunction_conjunction,
    ← List.append_assoc]
  rfl

theorem group_ok {cs : List Condition} {q : Option Predicate} (h : Condition.group d cs = .ok q) :
    ∃ ps, cs.mapM (Condition.predicate d) = .ok ps ∧ q = Predicate.all ps := by
  unfold Condition.group at h
  cases hps : cs.mapM (Condition.predicate d) with
  | error e => simp [hps, Except.map] at h
  | ok ps =>
    simp only [hps, Except.map, Except.ok.injEq] at h
    exact ⟨ps, rfl, h.symm⟩

/-- **What a plan is made from.** -/
theorem ofRequest_ok {p : Plan} (h : ofRequest d r schema = .ok p) :
    ∃ rs as, r.base.result.mapM (Condition.predicate d) = .ok rs ∧
      r.base.all.mapM (Condition.predicate d) = .ok as ∧
      p = {
        table := r.table
        selected := select r.columns schema
        data := dataStatement d r.table (select r.columns schema) (found d r schema rs as)
          (Order.items d r.table r.columns schema r.order) r.page
        filteredCount := countStatement d r.table (found d r schema rs as)
        totalCount := countStatement d r.table (Predicate.all as) } := by
  simp only [ofRequest] at h
  split at h
  · exact absurd h (by simp)
  · cases hresult : Condition.group d r.base.result with
    | error e => simp [hresult, bind, Except.bind] at h
    | ok result =>
      cases hall : Condition.group d r.base.all with
      | error e => simp [hresult, hall, bind, Except.bind] at h
      | ok all =>
        obtain ⟨rs, hrs, rfl⟩ := group_ok hresult
        obtain ⟨as, has, rfl⟩ := group_ok hall
        simp only [hresult, hall, bind, Except.bind, pure, Except.pure, Except.ok.injEq] at h
        exact ⟨rs, as, hrs, has, h.symm⟩

/-! ## The WHERE -/

/-- The phrase of the WHERE of the page. -/
def foundPhrase (d : Dialect) (r : Request) (schema : Schema) : Option Phrase :=
  chained (
    (grouped "AND" (Contribution.phrases d (r.search.individual r.columns schema))).toList ++
    (grouped "OR" (Contribution.phrases d (r.search.global r.columns schema))).toList ++
    (grouped "AND" (r.base.result.map Condition.phrase)).toList ++
    (grouped "AND" (r.base.all.map Condition.phrase)).toList)

theorem forall₂_toList {p : Option Predicate} {ph : Option Phrase}
    (h : Option.Rel (Predicate.Reads d) p ph) :
    List.Forall₂ (Predicate.Reads d) p.toList ph.toList := by
  cases h with
  | none => exact .nil
  | some h => exact .cons h .nil

theorem reads_found (schema : Schema) {rs as : List Predicate}
    (hrs : r.base.result.mapM (Condition.predicate d) = .ok rs)
    (has : r.base.all.mapM (Condition.predicate d) = .ok as) :
    Option.Rel (Predicate.Reads d) (found d r schema rs as) (foundPhrase d r schema) := by
  have hindividual := forall₂_toList (Predicate.reads_all
    (Contribution.reads_predicates d (r.search.individual r.columns schema)))
  have hglobal := forall₂_toList (Predicate.reads_any
    (Contribution.reads_predicates d (r.search.global r.columns schema)))
  have hresult := forall₂_toList (Predicate.reads_all (Condition.reads_predicates hrs))
  have hall := forall₂_toList (Predicate.reads_all (Condition.reads_predicates has))
  rw [found_eq]
  exact Predicate.reads_conjunction (List.rel_append (List.rel_append (List.rel_append
    hindividual hglobal) hresult) hall)

theorem legible_conditions (cs : List Condition) :
    ∀ ph ∈ grouped "AND" (cs.map Condition.phrase), Legible ph :=
  legible_grouped (by decide) (by simp [Condition.legible_phrase])

theorem legible_tests {w : String} (hw : w ∈ keywords) (cs : List Contribution) :
    ∀ ph ∈ grouped w (Contribution.phrases d cs), Legible ph :=
  legible_grouped hw (Contribution.legible_phrases d cs)

theorem legible_found (d : Dialect) (r : Request) (schema : Schema) :
    ∀ ph ∈ foundPhrase d r schema, Legible ph := by
  refine legible_chained fun ph hph => ?_
  simp only [List.mem_append, Option.mem_toList] at hph
  rcases hph with ((h | h) | h) | h
  · exact legible_tests (by decide) _ ph h
  · exact legible_tests (by decide) _ ph h
  · exact legible_conditions _ ph h
  · exact legible_conditions _ ph h

theorem over_conditions (cs : List Condition) :
    ∀ ph ∈ grouped "AND" (cs.map Condition.phrase), Over conditionWords ph :=
  over_grouped (by decide) (Condition.over_phrases cs)

/-- The words of a WHERE are those of conditions. -/
theorem over_found (d : Dialect) (r : Request) (schema : Schema) :
    ∀ ph ∈ foundPhrase d r schema, Over conditionWords ph := by
  refine over_chained (by decide) fun ph hph => ?_
  simp only [List.mem_append, Option.mem_toList] at hph
  rcases hph with ((h | h) | h) | h
  · exact over_grouped (by decide) (Contribution.over_phrases d _) ph h
  · exact over_grouped (by decide) (Contribution.over_phrases d _) ph h
  · exact over_conditions _ ph h
  · exact over_conditions _ ph h

/-- The phrase of a WHERE, if there is one. -/
def whereClause : Option Phrase → Phrase
  | some ph => [.sign ' ', .word "WHERE", .sign ' '] ++ ph
  | none => []

theorem reads_pushWhere {s : Statement} {ph : Phrase} (hs : s.Reads d ph) {p : Option Predicate}
    {w : Option Phrase} (h : Option.Rel (Predicate.Reads d) p w) :
    (pushWhere d p s).Reads d (ph ++ whereClause w) := by
  cases h with
  | none => simpa [pushWhere, whereClause] using hs
  | some h =>
    rw [whereClause, ← List.append_assoc]
    exact (hs.push ⟨fun _ => rfl, rfl⟩).pushPredicate h

/-! ## Counts -/

/-- The phrase of a count. -/
def countPhrase (table : String) (w : Option Phrase) : Phrase :=
  ([.word "SELECT", .sign ' ', .word "COUNT", .sign '(', .sign '*', .sign ')', .sign ' ',
    .word "FROM", .sign ' '] : Phrase) ++ ([.name table] : Phrase) ++ whereClause w

theorem reads_count (table : String) {p : Option Predicate} {w : Option Phrase}
    (h : Option.Rel (Predicate.Reads d) p w) :
    (countStatement d table p).Reads d (countPhrase table w) := by
  have hselect : Spells d "SELECT COUNT(*) FROM " [.word "SELECT", .sign ' ', .word "COUNT",
      .sign '(', .sign '*', .sign ')', .sign ' ', .word "FROM", .sign ' '] := ⟨fun _ => rfl, rfl⟩
  exact reads_pushWhere ((Statement.reads_empty.push hselect).push (spells_escape d table)) h

theorem legible_count (table : String) {w : Option Phrase} (h : ∀ ph ∈ w, Legible ph) :
    Legible (countPhrase table w) := by
  cases w with
  | none => simp [countPhrase, whereClause, keywords, punctuation]
  | some ph =>
    have hph := h ph rfl
    simp [countPhrase, whereClause, keywords, punctuation, hph]

/-! ## Pages -/

/-- The phrase of a column read as text. -/
def asTextPhrase (d : Dialect) (source : String) : Phrase :=
  match d with
  | .mysql =>
    [.word "CAST", .sign '(', .name source, .sign ' ', .word "AS", .sign ' ', .word "CHAR",
      .sign ')']
  | .postgres => [.name source, .sign ':', .sign ':', .word "text"]

theorem spells_asText (d : Dialect) (source : String) :
    Spells d (d.asText (d.escape source)) (asTextPhrase d source) := by
  have hname := spells_escape d source
  cases d with
  | mysql =>
    have hcast : Spells .mysql "CAST(" [.word "CAST", .sign '('] := ⟨fun _ => rfl, rfl⟩
    have has : Spells .mysql " AS CHAR)" [.sign ' ', .word "AS", .sign ' ', .word "CHAR",
        .sign ')'] := ⟨fun _ => rfl, rfl⟩
    exact (hcast.append hname).append has
  | postgres =>
    have hcast : Spells .postgres "::text" [.sign ':', .sign ':', .word "text"] :=
      ⟨fun _ => rfl, rfl⟩
    exact hname.append hcast

/-- The phrase of a column of the select list. -/
def selectPhrase (d : Dialect) (c : SelectedColumn) : Phrase :=
  asTextPhrase d c.source ++ (between "AS" : Phrase) ++ ([.name c.source] : Phrase)

theorem spells_selectItem (d : Dialect) (c : SelectedColumn) :
    Spells d (selectItem d c) (selectPhrase d c) := by
  have hnamed : Spells d " AS " (between "AS") := ⟨fun _ => rfl, rfl⟩
  exact ((spells_asText d c.source).append hnamed).append (spells_escape d c.source)

/-- The phrase of a sort item. -/
def sortPhrase (table : String) (k : String × Direction) : Phrase :=
  [.name table, .sign '.', .name k.1, .sign ' ', .word k.2.keyword]

theorem spells_item (d : Dialect) (table : String) (k : String × Direction) :
    Spells d (Order.item d table k) (sortPhrase table k) := by
  have hdot : Spells d "." [.sign '.'] := ⟨fun _ => rfl, rfl⟩
  have hblank : Spells d " " [.sign ' '] := ⟨fun _ => rfl, rfl⟩
  have hkeyword : Spells d k.2.keyword [.word k.2.keyword] := by
    cases k.2 <;> exact ⟨fun _ => rfl, rfl⟩
  exact ((((spells_escape d table).append hdot).append (spells_escape d k.1)).append
    hblank).append hkeyword

/-- What stands between the members of a list. -/
def comma : Phrase := [.sign ',', .sign ' ']

theorem spells_list {α : Type} {f : α → String} {g : α → Phrase}
    (h : ∀ x, Spells d (f x) (g x)) (xs : List α) :
    Spells d (String.intercalate ", " (xs.map f)) (comma.intercalate (xs.map g)) := by
  refine spells_intercalate ⟨fun _ => rfl, rfl⟩ ?_
  rw [List.forall₂_map_left_iff, List.forall₂_map_right_iff, List.forall₂_same]
  exact fun x _ => h x

theorem legible_list {α : Type} {g : α → Phrase} (h : ∀ x, Legible (g x)) (xs : List α) :
    Legible (comma.intercalate (xs.map g)) :=
  legible_intercalate ',' ' ' [] (by simp [punctuation]) (by simp [h])

/-- The phrase of an ORDER BY, if there are sort keys. -/
def orderClause (table : String) (keys : List (String × Direction)) : Phrase :=
  if keys = [] then []
  else ([.sign ' ', .word "ORDER", .sign ' ', .word "BY", .sign ' '] : Phrase) ++
    comma.intercalate (keys.map (sortPhrase table))

theorem reads_order {s : Statement} {ph : Phrase} (hs : s.Reads d ph) (table : String)
    (keys : List (String × Direction)) :
    (if (keys.map (Order.item d table)).isEmpty then s
      else (s.push " ORDER BY ").push (", ".intercalate (keys.map (Order.item d table)))).Reads d
      (ph ++ orderClause table keys) := by
  cases keys with
  | nil => simpa [orderClause] using hs
  | cons k keys =>
    have horder : Spells d " ORDER BY " [.sign ' ', .word "ORDER", .sign ' ', .word "BY",
        .sign ' '] := ⟨fun _ => rfl, rfl⟩
    rw [orderClause, if_neg (List.cons_ne_nil _ _), ← List.append_assoc]
    exact (hs.push horder).push (spells_list (spells_item d table) (k :: keys))

/-- The phrase of a page. -/
def dataPhrase (d : Dialect) (table : String) (selected : List SelectedColumn) (w : Option Phrase)
    (keys : List (String × Direction)) : Phrase :=
  ([.word "SELECT", .sign ' '] : Phrase) ++ comma.intercalate (selected.map (selectPhrase d)) ++
    (between "FROM" : Phrase) ++ ([.name table] : Phrase) ++ whereClause w ++
    orderClause table keys ++ (between "LIMIT" : Phrase) ++ ([.mark ()] : Phrase) ++
    (between "OFFSET" : Phrase) ++ ([.mark ()] : Phrase)

theorem reads_data (table : String) (selected : List SelectedColumn) {p : Option Predicate}
    {w : Option Phrase} (h : Option.Rel (Predicate.Reads d) p w)
    (keys : List (String × Direction)) (page : Page) :
    (dataStatement d table selected p (keys.map (Order.item d table)) page).Reads d
      (dataPhrase d table selected w keys) := by
  have hselect : (Statement.empty.push "SELECT ").Reads d [.word "SELECT", .sign ' '] :=
    Statement.reads_empty.push ⟨fun _ => rfl, rfl⟩
  have hfrom : Spells d " FROM " (between "FROM") := ⟨fun _ => rfl, rfl⟩
  have hlimit : Spells d " LIMIT " (between "LIMIT") := ⟨fun _ => rfl, rfl⟩
  have hoffset : Spells d " OFFSET " (between "OFFSET") := ⟨fun _ => rfl, rfl⟩
  have hwhere := reads_pushWhere (((hselect.push (spells_list (spells_selectItem d)
    selected)).push hfrom).push (spells_escape d table)) h
  have horder := reads_order hwhere table keys
  exact (((horder.push hlimit).bind (.ofNat page.limit)).push hoffset).bind (.ofNat page.offset)

theorem legible_data (table : String) (selected : List SelectedColumn) {w : Option Phrase}
    (h : ∀ ph ∈ w, Legible ph) (keys : List (String × Direction)) :
    Legible (dataPhrase d table selected w keys) := by
  have hselected : Legible (comma.intercalate (selected.map (selectPhrase d))) :=
    legible_list (fun c => by
      cases d <;> simp [selectPhrase, asTextPhrase, between, keywords, punctuation]) selected
  have hkeys : Legible (comma.intercalate (keys.map (sortPhrase table))) :=
    legible_list (fun k => by
      cases hk : k.2 <;> simp [sortPhrase, hk, Direction.keyword, keywords, punctuation]) keys
  -- Each optional part of the statement is there or not; its keywords are legible in either case.
  cases w with
  | none =>
    by_cases hk : keys = []
    · simp [dataPhrase, whereClause, orderClause, hk, between, keywords, punctuation, hselected]
    · simp [dataPhrase, whereClause, orderClause, hk, between, keywords, punctuation, hselected,
        hkeys]
  | some ph =>
    have hph := h ph rfl
    by_cases hk : keys = []
    · simp [dataPhrase, whereClause, orderClause, hk, between, keywords, punctuation, hselected,
        hph]
    · simp [dataPhrase, whereClause, orderClause, hk, between, keywords, punctuation, hselected,
        hkeys, hph]

/-! ## A hostile request -/

/-- A request whose names hold quotes, placeholders and SQL. -/
def hostile : Request where
  table := "a\"`b"
  columns := [⟨"x\"?$1", "x", true, true, none⟩, ⟨"y` OR 1 = 1", "y", true, true, none⟩]
  search := ⟨[⟨"x", "t", false, true⟩], some ⟨"u", false⟩⟩
  order := [⟨"x", .desc⟩]
  page := .of 0 10
  draw := .null
  base := ⟨[⟨"` OR 1 = 1", .isNull, none⟩], [⟨"\"", .eq, some (.int 1)⟩]⟩

def hostileSchema : Schema :=
  [⟨"x\"?$1", "text", .text⟩, ⟨"y` OR 1 = 1", "text", .text⟩]

end GridQuery.Plan
