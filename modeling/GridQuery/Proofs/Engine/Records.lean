import GridQuery.Proofs.Backend.Answers
import GridQuery.Proofs.Engine.Stage
import GridQuery.Proofs.Plan.Assembly

/-!
# From cells to records

A cell reaches its record by three steps: by its place in the select list, by its source in the
row, and by the exposed name of its column. The select list names every source of the schema that
some column takes, each once, so no cell ends under another column's name.

Main result: `Service.process_answered`.
-/

namespace GridQuery

/-! ## Values -/

namespace Column

/-- What a column receives from a row of cells: null if its source is not in the schema, and else
the cell at the place of the source in the select list, read by the schema's category. -/
inductive Receives (schema : Schema) (selected : List SelectedColumn) (cells : List (Option String))
    (c : Column) : Json → Prop
  | absent (h : schema.find? c.source = none) : Receives schema selected cells c .null
  | cell {live : CatalogColumn} {t : Option String} (h : schema.find? c.source = some live)
      (ht : cells[(selected.map (·.source)).idxOf c.source]? = some t) :
      Receives schema selected cells c (Json.ofCell live.category t)

/-- The record has exactly the exposed names, and under each what its column receives, transformed.
-/
structure RecordOf (columns : List Column) (schema : Schema) (selected : List SelectedColumn)
    (cells : List (Option String)) (rec : Record) : Prop where
  names : rec.names.Perm (columns.map (·.exposed))
  values : ∀ c ∈ columns, ∃ v w, c.Receives schema selected cells v ∧
    c.transformed v (.ofCells selected cells) = some w ∧ rec.get? c.exposed = some w

variable {columns : List Column} {schema : Schema} {cells : List (Option String)}

/-- **The row of the cells has under each source what its columns receive.** -/
theorem receives_of_row {c : Column} (hc : c ∈ columns)
    (hcells : cells.length = (Plan.select columns schema).length) :
    c.Receives schema (Plan.select columns schema) cells
      (((Row.ofCells (Plan.select columns schema) cells).get? c.source).getD .null) := by
  cases hlive : schema.find? c.source with
  | none =>
    have hout : c.source ∉ (Plan.select columns schema).map (·.source) := by
      intro hmem
      obtain ⟨x, hx, hsource⟩ := List.mem_map.1 hmem
      obtain ⟨-, live, hfound, -⟩ := Plan.mem_select.1 hx
      rw [hsource, hlive] at hfound
      cases hfound
    rw [Row.get?_ofCells_of_not_mem hcells hout]
    exact .absent hlive
  | some live =>
    have hselected : (⟨c.source, live.category⟩ : SelectedColumn) ∈ Plan.select columns schema :=
      Plan.mem_select.2 ⟨List.mem_map_of_mem hc, live, hlive, rfl⟩
    obtain ⟨i, hi⟩ := List.mem_iff_getElem?.1 hselected
    have hlt : i < cells.length := hcells ▸ (List.getElem?_eq_some_iff.1 hi).1
    -- The sources of a selection differ, so the place of the column's own is found by its source.
    have hplace : ((Plan.select columns schema).map (·.source)).idxOf c.source = i := by
      have hsource : ((Plan.select columns schema).map (·.source))[i]? = some c.source := by
        rw [List.getElem?_map, hi, Option.map_some]
      obtain ⟨hi', hget⟩ := List.getElem?_eq_some_iff.1 hsource
      rw [← hget]
      exact (Plan.nodup_select columns schema).idxOf_getElem i hi'
    have ht : cells[i]? = some cells[i] := List.getElem?_eq_getElem hlt
    rw [Row.get?_ofCells hcells (Plan.nodup_select columns schema) hi ht]
    exact .cell hlive (hplace.symm ▸ ht)

theorem recordOf_of_isRecord (hcells : cells.length = (Plan.select columns schema).length)
    {rec : Record}
    (h : IsRecord columns (.ofCells (Plan.select columns schema) cells) rec) :
    RecordOf columns schema (Plan.select columns schema) cells rec := by
  refine ⟨h.names, fun c hc => ?_⟩
  obtain ⟨w, hw, hget⟩ := h.values c hc
  exact ⟨_, w, receives_of_row hc hcells, hw, hget⟩

end Column

/-! ## Serving -/

theorem Request.names_of_check {r : Request} (h : r.check = .ok ()) :
    (r.columns.map (·.exposed)).Nodup := by
  unfold check at h
  split at h
  · cases h
  · split at h
    · cases h
    · split at h
      · cases h
      · exact Column.nodup_of_repeatedName ‹_›

namespace Service

variable {σ : Type} {s : Service σ} {c : Connection σ} {d : Dialect} {r : Request}

/-- **A request whose statements are answered gets its records.** Its columns' transforms return,
its table has a schema, for which it has a plan, and the statements of the plan are answered with
rows of cells, one for every selected column, and two counts. Then there is one record for each
row, in their order, and the counts are those answered, the smaller one for the rows found. -/
theorem process_answered (hbackend : s.backend = c.backend d) (hcheck : r.check = .ok ())
    (hreturns : ∀ col ∈ r.columns, col.Returns) {st st' : ServiceState σ} {schema : Schema}
    (hschema : (s.describe r.table).run st = (.ok schema, st')) {p : Plan}
    (hplan : Plan.ofRequest d r schema = .ok p) {opened : List ResultSet} {page closed : ResultSet}
    {filtered total : Int} {w : σ} {rows : List (List (Option String))}
    (hpage : page.Holds p.selected.length rows)
    (hanswers : c.Answers st'.world (Connection.script d p)
      (opened ++ [page, .count filtered, .count total, closed]) w) :
    ∃ out, ((s.process r).run st).1 = .ok out ∧
      List.Forall₂ (Column.RecordOf r.columns schema p.selected) rows out.response.data ∧
      out.response.draw = r.draw ∧ out.response.total = total.toNat ∧
      out.response.filtered = min filtered.toNat total.toNat := by
  have hselected : p.selected = Plan.select r.columns schema := by
    obtain ⟨rs, as, -, -, rfl⟩ := Plan.ofRequest_ok hplan
    rfl
  have hdialect : s.dialect = d := by rw [dialect, hbackend]; rfl
  -- The stages one by one: the plan, the page that is fetched, the records made of its rows.
  have hplanned : s.planOf r schema = .ok (p, Diagnostics.collect (Plan.findings r schema)) := by
    rw [planOf, hcheck, hdialect, hplan]
    rfl
  have hfetched := Connection.fetchPage_of_answers hanswers (ResultSet.decodeRows_of_holds hpage)
    (ResultSet.decodeCount_of_counts (.first filtered [] []))
    (ResultSet.decodeCount_of_counts (.first total [] [])) s.timeout
  obtain ⟨data, hdata, hrecords⟩ := Column.exists_records (Request.names_of_check hcheck) hreturns
    (rows.map (Row.ofCells p.selected))
  rw [List.forall₂_map_left_iff] at hrecords
  have hlengths : ∀ cells ∈ rows, cells.length = p.selected.length := hpage.width
  refine ⟨⟨Response.ofPage r.draw ⟨rows.map (Row.ofCells p.selected), filtered.toNat,
    total.toNat⟩ data, Diagnostics.collect (Plan.findings r schema)⟩, ?_, ?_, rfl, rfl, rfl⟩
  · rw [run_process, hcheck, hschema]
    simp only [run_compile, hplanned, run_run, hbackend, hfetched, outcomeOf, inTime, hdata]
  · rw [hselected] at hrecords hlengths ⊢
    exact ((List.forall₂_and_left _ _).2 ⟨hlengths, hrecords⟩).imp fun cells rec h =>
      Column.recordOf_of_isRecord h.1 h.2

/-! ## Shared and missing sources -/

/-- Two columns share a source, and one has a source that the table lacks. -/
def shelf : Request where
  table := "t"
  columns := [⟨"b", "first", true, true, none⟩, ⟨"gone", "gone", true, true, none⟩,
    ⟨"a", "name", true, true, none⟩, ⟨"b", "boxed", true, true, some fun v _ => some (.array [v])⟩]
  search := .empty
  order := []
  page := .first
  draw := .bool true
  base := ⟨[⟨"a", .isNotNull, none⟩], []⟩

def shelfSchema : Schema := [⟨"a", "text", .text⟩, ⟨"b", "int4", .integer⟩]

/-- Rows of two cells, and more rows found than there are. -/
def shelfScript : Script where
  dialect := .postgres
  tables := []
  rows := [[some "7", some "x"], [none, some "y"]]
  filtered := 5
  total := 3
  failures := []
  login := .accepted

/-- A scripted database whose table is known already. -/
def shelfState : ServiceState Script.Session :=
  ⟨some ⟨[(⟨.postgres, "t"⟩, shelfSchema)]⟩, ⟨shelfScript, []⟩, []⟩

def shelfService : Service Script.Session := ⟨Script.connection.backend .postgres, none⟩

/-- The shelf gets its two records. -/
theorem process_answered_shelf :
    ∃ out, ((shelfService.process shelf).run shelfState).1 = .ok out ∧
      List.Forall₂ (Column.RecordOf shelf.columns shelfSchema [⟨"b", .integer⟩, ⟨"a", .text⟩])
        shelfScript.rows out.response.data ∧
      out.response.total = 3 ∧ out.response.filtered = 3 := by
  let page : ResultSet := ⟨[[.text "7", .text "x"], [.null, .text "y"]]⟩
  obtain ⟨p, hp, hselected, hresults⟩ : ∃ p,
      Plan.ofRequest .postgres shelf shelfSchema = .ok p ∧
      p.selected = [⟨"b", .integer⟩, ⟨"a", .text⟩] ∧
      ((Connection.script .postgres p).map fun st =>
          shelfScript.result ⟨st.sql, st.values.map Script.arrived⟩) =
        [⟨[]⟩, ⟨[]⟩] ++ [page, .count 5, .count 3, ⟨[]⟩] := ⟨_, rfl, rfl, by decide +kernel⟩
  obtain ⟨log, hanswers⟩ :=
    Connection.answers_of_script shelfScript rfl [] (Connection.script .postgres p)
  rw [hresults] at hanswers
  have hreturns : ∀ col ∈ shelf.columns, col.Returns := by
    simp [shelf, Column.Returns, Column.transformed]
  have hpage : page.Holds p.selected.length shelfScript.rows := by
    rw [hselected]
    exact ⟨rfl, by decide⟩
  have hschema : (shelfService.describe shelf.table).run shelfState =
      (.ok shelfSchema, shelfState) := rfl
  obtain ⟨out, hout, hrecords, -, htotal, hfiltered⟩ :=
    process_answered rfl rfl hreturns hschema hp hpage hanswers
  rw [hselected] at hrecords
  exact ⟨out, hout, hrecords, htotal, hfiltered⟩

end Service

end GridQuery
