import GridQuery.Proofs.Plan.Statement

/-!
# Pages and their counts

The page and the count of the rows found have one WHERE: in both it stands behind no values, so
it is the same text with the same placeholders. The page has behind it only its order and its
limit and offset, bound as integers of sixty-four bits with a sign. The count of all rows
depends on nothing but the table and the base conditions on everything.

Main result: `Plan.page_matches_counts`.
-/

namespace GridQuery.Plan

variable {d : Dialect} {r : Request} {schema : Schema}

/-! ## Texts -/

/-- The text of a WHERE behind no values, if there is one. -/
def whereText (d : Dialect) : Option Predicate → String
  | some p => " WHERE " ++ p.sqlFrom d 0
  | none => ""

/-- The values of a WHERE. -/
def whereValues : Option Predicate → List Value
  | some p => p.values
  | none => []

/-- The text of an ORDER BY, if there are sort items. -/
def orderText : List String → String
  | [] => ""
  | items => " ORDER BY " ++ ", ".intercalate items

theorem sql_pushWhere (q : Option Predicate) {s : Statement} (h : s.values = []) :
    (pushWhere d q s).sql = s.sql ++ whereText d q := by
  cases q with
  | none => simp [pushWhere, whereText]
  | some p => simp [pushWhere, whereText, h, String.append_assoc]

theorem values_pushWhere (q : Option Predicate) {s : Statement} (h : s.values = []) :
    (pushWhere d q s).values = whereValues q := by
  cases q with
  | none => simpa [pushWhere, whereValues] using h
  | some p => simp [pushWhere, whereValues, h]

theorem sql_count (table : String) (q : Option Predicate) :
    (countStatement d table q).sql =
      "SELECT COUNT(*) FROM " ++ d.escape table ++ whereText d q := by
  rw [countStatement, sql_pushWhere q rfl]
  simp [Statement.empty]

theorem values_count (table : String) (q : Option Predicate) :
    (countStatement d table q).values = whereValues q := by
  rw [countStatement, values_pushWhere q rfl]

/-- A page is its WHERE, an order, and a limit and an offset that are bound last. -/
theorem data_eq (table : String) (selected : List SelectedColumn) (q : Option Predicate)
    (order : List String) (page : Page) :
    dataStatement d table selected q order page =
      ⟨"SELECT " ++ ", ".intercalate (selected.map (selectItem d)) ++ " FROM " ++
          d.escape table ++ whereText d q ++ orderText order ++
          " LIMIT " ++ d.placeholder ((whereValues q).length + 1) ++
          " OFFSET " ++ d.placeholder ((whereValues q).length + 2),
        whereValues q ++ [.ofNat page.limit, .ofNat page.offset]⟩ := by
  -- What stands before the WHERE binds nothing, so the WHERE is numbered from one.
  let s := (((Statement.empty.push "SELECT ").push
    (", ".intercalate (selected.map (selectItem d)))).push " FROM ").push (d.escape table)
  have hs : s.sql = "SELECT " ++ ", ".intercalate (selected.map (selectItem d)) ++ " FROM " ++
      d.escape table := by simp [s, Statement.empty]
  have hsql : (pushWhere d q s).sql = s.sql ++ whereText d q := sql_pushWhere q rfl
  have hvalues : (pushWhere d q s).values = whereValues q := values_pushWhere q rfl
  rw [hs] at hsql
  show ((((if order.isEmpty then pushWhere d q s
    else ((pushWhere d q s).push " ORDER BY ").push (", ".intercalate order)).push " LIMIT ").bind d
      (.ofNat page.limit)).push " OFFSET ").bind d (.ofNat page.offset) = _
  generalize pushWhere d q s = t at hsql hvalues
  obtain ⟨sql, values⟩ := t
  subst hsql hvalues
  cases order with
  | nil => simp [orderText, Statement.push, Statement.bind]
  | cons item items => simp [orderText, Statement.push, Statement.bind, String.append_assoc]

/-! ## The page and the counts -/

theorem whereText_form (q : Option Predicate) :
    whereText d q = "" ∨ ∃ t, whereText d q = " WHERE " ++ t := by
  cases q with
  | none => exact .inl rfl
  | some p => exact .inr ⟨_, rfl⟩

/-- Requests on one table with the same base conditions on everything count all rows alike. -/
theorem total_eq {r' : Request} {schema' : Schema} {p p' : Plan} (h : ofRequest d r schema = .ok p)
    (h' : ofRequest d r' schema' = .ok p') (htable : r'.table = r.table)
    (hall : r'.base.all = r.base.all) : p'.totalCount = p.totalCount := by
  obtain ⟨rs, as, -, has, rfl⟩ := ofRequest_ok h
  obtain ⟨rs', as', -, has', rfl⟩ := ofRequest_ok h'
  rw [hall, has] at has'
  cases has'
  show countStatement d r'.table _ = countStatement d r.table _
  rw [htable]

/-- **The page and the count of the rows found share their WHERE, and the count of all rows depends
on the table and the base conditions on everything alone.** -/
theorem page_matches_counts {p : Plan} (h : ofRequest d r schema = .ok p) :
    (∃ w, (w = "" ∨ ∃ t, w = " WHERE " ++ t) ∧
      p.filteredCount.sql = "SELECT COUNT(*) FROM " ++ d.escape r.table ++ w ∧
      p.data.sql = "SELECT " ++ ", ".intercalate (p.selected.map (selectItem d)) ++ " FROM " ++
        d.escape r.table ++ w ++ orderText (Order.items d r.table r.columns schema r.order) ++
        " LIMIT " ++ d.placeholder (p.filteredCount.values.length + 1) ++
        " OFFSET " ++ d.placeholder (p.filteredCount.values.length + 2)) ∧
    p.data.values = p.filteredCount.values ++
      [.int (min (r.page.limit : Int) 0x7fffffffffffffff),
        .int (min (r.page.offset : Int) 0x7fffffffffffffff)] ∧
    ∀ (r' : Request) (schema' : Schema) (p' : Plan), ofRequest d r' schema' = .ok p' →
      r'.table = r.table → r'.base.all = r.base.all → p'.totalCount = p.totalCount := by
  refine ⟨?_, ?_, fun r' schema' p' h' htable hall => total_eq h h' htable hall⟩
  · obtain ⟨rs, as, -, -, rfl⟩ := ofRequest_ok h
    refine ⟨whereText d (found d r schema rs as), whereText_form _, sql_count _ _, ?_⟩
    rw [data_eq, values_count]
  · obtain ⟨rs, as, -, -, rfl⟩ := ofRequest_ok h
    rw [data_eq, values_count]
    rfl

/-- The hostile request without search and order, and with a page of its own. -/
def quiet : Request :=
  { hostile with search := .empty, order := [], page := .of 5 3, base := ⟨[], hostile.base.all⟩ }

theorem page_matches_counts_hostile :
    ∃ p p', ofRequest .postgres hostile hostileSchema = .ok p ∧
      ofRequest .postgres quiet hostileSchema = .ok p' ∧
      p.data.values = p.filteredCount.values ++ [.int 10, .int 0] ∧
      p'.totalCount = p.totalCount := by
  have hplan : ∃ p, ofRequest .postgres hostile hostileSchema = .ok p := ⟨_, rfl⟩
  have hquiet : ∃ p, ofRequest .postgres quiet hostileSchema = .ok p := ⟨_, rfl⟩
  obtain ⟨p, hp⟩ := hplan
  obtain ⟨p', hp'⟩ := hquiet
  obtain ⟨-, hvalues, htotal⟩ := page_matches_counts hp
  exact ⟨p, p', hp, hp', hvalues, htotal quiet hostileSchema p' hp' rfl rfl⟩

/-- A page whose offset is no integer of sixty-four bits with a sign. -/
def far : Request where
  table := "t"
  columns := [⟨"a", "a", true, true, none⟩]
  search := .empty
  order := []
  page := .of 0x8000000000000000 10
  draw := .null
  base := .none

/-- The offset of such a page is not bound as it is. -/
theorem far_offset :
    ∃ p, ofRequest .postgres far [⟨"a", "text", .text⟩] = .ok p ∧
      p.data.values ≠ p.filteredCount.values ++ [.int far.page.limit, .int far.page.offset] :=
  ⟨_, rfl, by decide⟩

end GridQuery.Plan
