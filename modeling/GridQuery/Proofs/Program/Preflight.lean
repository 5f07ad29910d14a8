import GridQuery.Program.Preflight
import GridQuery.Proofs.Backend.Catalog
import GridQuery.Proofs.Text.Bytes
import GridQuery.Proofs.Traversal

/-!
# What a preflight looks at

The tables are those that are named, or else those of the views without repetitions and in the
order of their bytes (`Preflight.Chosen`). All of them are looked at, and what is shown is put
together from what each look found (`Preflight.Shows`): so no table can be left out, and no failure
be lost. The line of a column is stated by what stands in it (`Preflight.ColumnShown`): its name and
its type in their widths, and the word for its category.

Main result: `Preflight.run_looks_at_tables`.
-/

namespace GridQuery

variable {σ : Type}

namespace Program.Preflight

open Connection

variable {c : Connection σ} {w w' w₁ : σ} {d : Dialect}

/-! ## Looking at tables -/

/-- **Every table is looked at once, in their order,** whatever was found of those before. -/
theorem describeAll_looks (c : Connection σ) (d : Dialect) (tables : List String) (w : σ) :
    ∃ reports w', describeAll (c.backend d) tables w = (reports, w') ∧
      reports.map (·.1) = tables ∧ c.Looks d w reports w' := by
  induction tables generalizing w with
  | nil => exact ⟨[], w, rfl, rfl, .done w⟩
  | cons table tables ih =>
    obtain ⟨found, hgives, hfound⟩ := describe_reported
      (rfl : c.execute (catalogQuery d table) w = (_, (c.execute (catalogQuery d table) w).2))
    obtain ⟨reports, w', hall, htables, hlooks⟩ := ih (c.execute (catalogQuery d table) w).2
    refine ⟨(table, found) :: reports, w', ?_, congrArg (table :: ·) htables,
      .next rfl hfound hlooks⟩
    have hstep : step ((c.backend d).describe table) w = (some found, _) := hgives.runFor none
    rw [describeAll, hstep]
    simp only [hall]

/-! ## Which tables -/

theorem pairwise_lt_eraseDups : ∀ xs : List String, xs.Pairwise (· ≤ ·) →
    xs.eraseDups.Pairwise (· < ·)
  | [], _ => .nil
  | x :: xs, h => by
    rw [List.pairwise_cons] at h
    rw [List.eraseDups_cons, List.pairwise_cons]
    refine ⟨fun y hy => ?_, pairwise_lt_eraseDups _ (h.2.filter _)⟩
    obtain ⟨hmem, hne⟩ := List.mem_filter.1 (List.mem_eraseDups.1 hy)
    refine lt_of_le_of_ne (h.1 y hmem) ?_
    rintro rfl
    simp at hne
termination_by xs => xs.length
decreasing_by exact Nat.lt_succ_of_le (List.length_filter_le _ _)

theorem pairwise_tablesOf (r : Registry) :
    (tablesOf r).Pairwise fun a b => Text.bytes a < Text.bytes b := by
  have htrans (a b c : String) (hab : decide (a ≤ b) = true) (hbc : decide (b ≤ c) = true) :
      decide (a ≤ c) = true :=
    decide_eq_true (String.le_trans (of_decide_eq_true hab) (of_decide_eq_true hbc))
  have htotal (a b : String) : (decide (a ≤ b) || decide (b ≤ a)) = true := by
    simpa using String.le_total a b
  have hsorted : ((r.views.map (·.table)).mergeSort fun a b => decide (a ≤ b)).Pairwise (· ≤ ·) :=
    (List.pairwise_mergeSort htrans htotal _).imp fun h => of_decide_eq_true h
  exact (pairwise_lt_eraseDups _ hsorted).imp fun h => Text.lt_iff_bytes_lt.1 h

theorem mem_tablesOf {r : Registry} {table : String} :
    table ∈ tablesOf r ↔ ∃ v ∈ r.views, v.table = table := by
  rw [tablesOf, List.mem_eraseDups, List.mem_mergeSort, List.mem_map]

/-- The tables that are looked at, and the lines that say where they come from. -/
inductive Chosen (s : Surroundings σ) (v : ServiceSettings) :
    List String → List String → List String → Prop
  | named {args : List String} (h : args ≠ []) : Chosen s v args args []
  | viewed {r : Registry} {tables : List String} (hr : s.views v.viewsFile = .ok r)
      (hsorted : tables.Pairwise fun a b => Text.bytes a < Text.bytes b)
      (hmem : ∀ table, table ∈ tables ↔ ∃ view ∈ r.views, view.table = table) :
      Chosen s v [] tables
        ["  VIEWS_FILE=" ++ v.viewsFile ++ " (" ++ toString r.size ++ " views)"]

theorem tables_chosen {s : Surroundings σ} {v : ServiceSettings} {args : List String}
    (hviews : args = [] → ∃ r, s.views v.viewsFile = .ok r) :
    ∃ tables note, Preflight.tables s v args = .ok (tables, note) ∧
      Chosen s v args tables note := by
  cases args with
  | nil =>
    obtain ⟨r, hr⟩ := hviews rfl
    refine ⟨tablesOf r, _, ?_, .viewed hr (pairwise_tablesOf r) fun _ => mem_tablesOf⟩
    rw [Preflight.tables, hr]
    rfl
  | cons arg args => exact ⟨arg :: args, [], rfl, .named (List.cons_ne_nil _ _)⟩

/-! ## What is shown -/

/-- The text consists of the lines, each with its end. -/
inductive Lines : List String → String → Prop
  | none : Lines [] ""
  | line (l : String) {ls : List String} {text : String} (h : Lines ls text) :
      Lines (l :: ls) (l ++ ("\n" ++ text))

/-- The text is the content and blanks behind it up to a width; what is longer is not cut. -/
def Fills (width : Nat) (content text : String) : Prop :=
  ∃ n, text = content ++ String.ofList (List.replicate n ' ') ∧
    text.length = max width content.length

/-- The word for a category. -/
inductive CategoryWord : Category → String → Prop
  | text : CategoryWord .text "text"
  | integer : CategoryWord .integer "integer"
  | float : CategoryWord .float "float"
  | boolean : CategoryWord .boolean "boolean"
  | date : CategoryWord .date "date"
  | dateTime : CategoryWord .dateTime "datetime"
  | unknown : CategoryWord .unknown "unknown"

/-- The line shows the name of the column and its type, each in its width, and its category. -/
def ColumnShown (c : CatalogColumn) (line : String) : Prop :=
  ∃ name type word, Fills 32 c.source name ∧ Fills 24 c.rawType type ∧
    CategoryWord c.category word ∧ line = "    " ++ name ++ " " ++ type ++ " " ++ word

/-- A table with what was found of it. -/
abbrev Report := String × Except SchemaFailure Schema

/-- The lines about a table: if it is described, its name and one line for each of its columns. -/
inductive Printed : Report → List String → Prop
  | described (table : String) {schema : Schema} {rows : List String}
      (h : List.Forall₂ ColumnShown schema rows) :
      Printed (table, .ok schema) (("  Table " ++ table ++ ":") :: rows)
  | missing (table : String) (f : SchemaFailure) : Printed (table, .error f) []

/-- The lines about a table that is not described. -/
inductive Complained : Report → List String → Prop
  | described (table : String) (schema : Schema) : Complained (table, .ok schema) []
  | missing (table : String) (f : SchemaFailure) :
      Complained (table, .error f) ["  Error: " ++ f.message]

/-- How many tables are not described. -/
def failures (reports : List Report) : Nat := reports.countP (·.2.toOption.isNone)

/-- What a run shows that looks at tables. -/
structure Shows (heading : List String) (reports : List Report) (t : Transcript) : Prop where
  exit_eq_zero_iff : t.exit = 0 ↔ ∀ report ∈ reports, ∃ schema, report.2 = .ok schema
  passed : t.exit = 0 → t.err = "" ∧ ∃ blocks, List.Forall₂ Printed reports blocks ∧
    Lines (heading ++ blocks.flatten ++ ["> Preflight OK."]) t.out
  refused : t.exit ≠ 0 → t.exit = 1 ∧
    (∃ blocks, List.Forall₂ Printed reports blocks ∧ Lines (heading ++ blocks.flatten) t.out) ∧
    ∃ complaints, List.Forall₂ Complained reports complaints ∧
      Lines (complaints.flatten ++
        ["Error: " ++ toString (failures reports) ++ " table(s) could not be described"]) t.err

variable {reports : List Report}

theorem lines_lines (ls : List String) : Lines ls (lines ls) := by
  induction ls with
  | nil => exact .none
  | cons l ls ih =>
    rw [lines, List.map_cons, String.join_cons, String.append_assoc]
    exact .line l ih

theorem lines_append (xs ys : List String) : lines (xs ++ ys) = lines xs ++ lines ys := by
  rw [lines, List.map_append, String.join_append, lines, lines]

theorem fills_cell (width : Nat) (content : String) : Fills width content (cell width content) := by
  refine ⟨width - content.length, rfl, ?_⟩
  rw [cell, String.length_append, String.length_ofList, List.length_replicate]
  omega

theorem categoryWord_label (c : Category) : CategoryWord c c.label := by
  cases c <;> constructor

theorem columnShown_columnLine (c : CatalogColumn) : ColumnShown c (columnLine c) :=
  ⟨_, _, _, fills_cell 32 c.source, fills_cell 24 c.rawType, categoryWord_label c.category, rfl⟩

/-- The lines of a report, and those of its complaint. -/
theorem exists_tableReport (x : Report) : ∃ block complaint, Printed x block ∧
    Complained x complaint ∧ tableReport x.1 x.2 = (lines block, lines complaint) := by
  obtain ⟨table, found⟩ := x
  cases found with
  | ok schema =>
    have hrows : List.Forall₂ ColumnShown schema (schema.map columnLine) := by
      rw [List.forall₂_map_right_iff]
      exact List.forall₂_same.2 fun c _ => columnShown_columnLine c
    exact ⟨_, [], .described table hrows, .described table schema, rfl⟩
  | error f => exact ⟨[], _, .missing table f, .missing table f, rfl⟩

/-- What is shown of all tables, on either stream. -/
theorem exists_tableReports (reports : List Report) : ∃ blocks complaints,
    List.Forall₂ Printed reports blocks ∧ List.Forall₂ Complained reports complaints ∧
    String.join ((reports.map fun x => tableReport x.1 x.2).map (·.1)) = lines blocks.flatten ∧
    String.join ((reports.map fun x => tableReport x.1 x.2).map (·.2)) =
      lines complaints.flatten := by
  induction reports with
  | nil => exact ⟨[], [], .nil, .nil, rfl, rfl⟩
  | cons x reports ih =>
    obtain ⟨block, complaint, hblock, hcomplaint, hx⟩ := exists_tableReport x
    obtain ⟨blocks, complaints, hblocks, hcomplaints, hout, herr⟩ := ih
    refine ⟨block :: blocks, complaint :: complaints, .cons hblock hblocks,
      .cons hcomplaint hcomplaints, ?_, ?_⟩
    · rw [List.map_cons, List.map_cons, String.join_cons, hx, hout, List.flatten_cons,
        lines_append]
    · rw [List.map_cons, List.map_cons, String.join_cons, hx, herr, List.flatten_cons,
        lines_append]

theorem failures_eq_zero_iff :
    failures reports = 0 ↔ ∀ report ∈ reports, ∃ schema, report.2 = .ok schema := by
  rw [failures, List.countP_eq_zero]
  refine forall₂_congr fun report _ => ?_
  cases report.2 with
  | ok schema => simp [Except.toOption]
  | error f => simp [Except.toOption]

/-- Nothing is complained of if every table is described. -/
theorem flatten_complaints {complaints : List (List String)}
    (hcomplaints : List.Forall₂ Complained reports complaints)
    (h : ∀ report ∈ reports, ∃ schema, report.2 = .ok schema) : complaints.flatten = [] := by
  induction hcomplaints with
  | nil => rfl
  | cons hcomplaint _ ih =>
    rw [List.forall_mem_cons] at h
    rw [List.flatten_cons, ih h.2, List.append_nil]
    cases hcomplaint with
    | described table schema => rfl
    | missing table f =>
      obtain ⟨⟨schema, hschema⟩, -⟩ := h
      cases hschema

/-- **A database that answers is reported with all tables,** described or not. -/
theorem check_shows {d : Dialect} {c : Connection σ} {w w₁ : σ} {rs : ResultSet}
    (hping : c.execute (plain "SELECT 1") w = (.ok rs, w₁)) (heading tables : List String) :
    ∃ reports t w', check (lines heading) tables ⟨c.backend d, w⟩ = (t, w') ∧
      reports.map (·.1) = tables ∧ c.Looks d w₁ reports w' ∧
      Shows (heading ++ ["  Database is reachable."]) reports t := by
  obtain ⟨reports, w', hall, htables, hlooks⟩ := describeAll_looks c d tables w₁
  have hgives : (c.backend d).ping.Gives w (.ok ()) w₁ :=
    (gives_send hping).bind (.pure ((Except.ok rs).map fun _ => ()) w₁)
  have hstep : step (c.backend d).ping w = (some (.ok ()), w₁) := hgives.runFor none
  obtain ⟨blocks, complaints, hblocks, hcomplaints, hout, herr⟩ := exists_tableReports reports
  have hcount : (reports.filter fun t => t.2.toOption.isNone).length = failures reports :=
    List.countP_eq_length_filter.symm
  simp only [check, hstep, hall, hout, herr, hcount, ← lines_append]
  -- Tables that could not be described decide the last line and the exit status.
  by_cases hzero : failures reports = 0
  · rw [if_pos hzero]
    have hdescribed := failures_eq_zero_iff.1 hzero
    refine ⟨reports, _, w', rfl, htables, hlooks, iff_of_true rfl hdescribed,
      fun _ => ⟨?_, blocks, hblocks, lines_lines _⟩, fun h => absurd rfl h⟩
    rw [flatten_complaints hcomplaints hdescribed]
    rfl
  · rw [if_neg hzero]
    have hexit : (1 : Nat) ≠ 0 := by decide
    have herror : lines complaints.flatten ++
        Complaint.text ⟨toString (failures reports) ++ " table(s) could not be described", []⟩ =
        lines (complaints.flatten ++
          ["Error: " ++ toString (failures reports) ++ " table(s) could not be described"]) := by
      rw [lines_append]
      simp [Complaint.text, lines, String.append_assoc]
    refine ⟨reports, _, w', rfl, htables, hlooks,
      iff_of_false hexit (mt failures_eq_zero_iff.2 hzero), fun h => absurd h hexit,
      fun _ => ⟨rfl, ⟨blocks, hblocks, lines_lines _⟩, complaints, hcomplaints, ?_⟩⟩
    rw [Transcript.failed, herror]
    exact lines_lines _

/-- **A preflight looks at every table, and says whether all of them are there.** The tables are the
arguments, or else those of the views without repetitions and in the order of their bytes. Each is
looked at once, whatever was found before, and shown with all its columns; the run ends well if none
is missing, and else with the number of those that are. -/
theorem run_looks_at_tables {s : Surroundings σ} {args : List String} {d : DatabaseSettings}
    {v : ServiceSettings} {c : Connection σ} {w w₁ : σ} {rs : ResultSet}
    (hsettings : s.settings = .ok (d, v)) (hhelp : "-h" ∉ args ∧ "--help" ∉ args)
    (hviews : args = [] → ∃ r, s.views v.viewsFile = .ok r)
    (hconnect : s.connect d = .ok ⟨c.backend d.dialect, w⟩)
    (hping : c.execute (plain "SELECT 1") w = (.ok rs, w₁)) :
    ∃ tables note reports t w', run s args = (t, some w') ∧ Chosen s v args tables note ∧
      reports.map (·.1) = tables ∧ c.Looks d.dialect w₁ reports w' ∧
      Shows (settingsLines d ++ note ++ ["  Database is reachable."]) reports t := by
  obtain ⟨tables, note, htables, hchosen⟩ := tables_chosen hviews
  obtain ⟨reports, t, w', hcheck, hnames, hlooks, hshows⟩ :=
    check_shows (d := d.dialect) hping (settingsLines d ++ note) tables
  refine ⟨tables, note, reports, t, w', ?_, hchosen, hnames, hlooks, hshows⟩
  have hnone : ¬ (args.contains "-h" || args.contains "--help") = true := by
    simpa using hhelp
  rw [lines_append] at hcheck
  simp only [run, if_neg hnone, hsettings, htables, hconnect, hcheck]

/-- A database with one table. -/
def oneTable : Script where
  dialect := .postgres
  tables := [("users", [("id", "int4"), ("name", "text")])]
  rows := []
  filtered := 0
  total := 0
  failures := []
  login := .accepted

/-- Views of two tables, of which the database has one. -/
def viewsText : String :=
  "\x7b\"p\":\x7b\"table\":\"users\",\"columns\":[\x7b\"source\":\"id\"\x7d]\x7d," ++
    "\"q\":\x7b\"table\":\"gone\",\"columns\":[\x7b\"source\":\"id\"\x7d]\x7d," ++
    "\"r\":\x7b\"table\":\"users\",\"columns\":[\x7b\"source\":\"name\"\x7d]\x7d\x7d"

def deployment : Surroundings Script.Session where
  env name := if name = "DB_DIALECT" then some "postgres" else none
  readFile _ := .ok viewsText
  connect d := oneTable.connect.map fun w => ⟨Script.connection.backend d.dialect, w⟩

theorem tables_viewsText :
    (Registry.ofText viewsText).toOption.map (·.views.map (·.table)) =
      some ["users", "gone", "users"] := by
  decide +kernel

/-- One table is not there, whether it is named or is that of a view, and the others are looked at
all the same. -/
theorem run_looks_at_tables_deployment :
    ∃ d v r rs w₁, deployment.settings = .ok (d, v) ∧ deployment.views v.viewsFile = .ok r ∧
      r.views.map (·.table) = ["users", "gone", "users"] ∧
      deployment.connect d = .ok ⟨Script.connection.backend d.dialect, ⟨oneTable, []⟩⟩ ∧
      Script.connection.execute (plain "SELECT 1") ⟨oneTable, []⟩ = (.ok rs, w₁) ∧
      (∃ reports t w', run deployment ["users", "gone", "users"] = (t, some w') ∧
        reports.map (·.1) = ["users", "gone", "users"] ∧
        Script.connection.Looks d.dialect w₁ reports w' ∧
        Shows (settingsLines d ++ [] ++ ["  Database is reachable."]) reports t ∧ t.exit = 1 ∧
        w'.log = plain "SELECT 1" :: ["users", "gone", "users"].map (catalogQuery d.dialect)) ∧
      ∃ tables note reports t w', run deployment [] = (t, some w') ∧
        Chosen deployment v [] tables note ∧ reports.map (·.1) = tables ∧
        Script.connection.Looks d.dialect w₁ reports w' ∧
        Shows (settingsLines d ++ note ++ ["  Database is reachable."]) reports t := by
  obtain ⟨r, hr, htables⟩ := exists_ok_of_map tables_viewsText
  have hviews (v : ServiceSettings) : deployment.views v.viewsFile = .ok r := by
    have hread : deployment.readFile v.viewsFile = .ok viewsText := rfl
    simp only [Surroundings.views, Registry.load, hread, hr, Except.mapError]
  obtain ⟨d, v, hsettings⟩ : ∃ d v, deployment.settings = .ok (d, v) := ⟨_, _, rfl⟩
  have hping : Script.connection.execute (plain "SELECT 1") ⟨oneTable, []⟩ =
      (.ok (oneTable.result (plain "SELECT 1")), ⟨oneTable, [plain "SELECT 1"]⟩) :=
    execute_of_script oneTable rfl [] _
  have hconnect : deployment.connect d =
      .ok ⟨Script.connection.backend d.dialect, ⟨oneTable, []⟩⟩ := rfl
  refine ⟨d, v, r, _, _, hsettings, hviews v, htables, hconnect, hping, ?_,
    run_looks_at_tables hsettings (by decide) (fun _ => ⟨r, hviews v⟩) hconnect hping⟩
  have hhelp : "-h" ∉ ["users", "gone", "users"] ∧ "--help" ∉ ["users", "gone", "users"] := by
    decide
  obtain ⟨tables, note, reports, t, w', hrun, hchosen, hnames, hlooks, hshows⟩ :=
    run_looks_at_tables hsettings hhelp (fun h => absurd h (List.cons_ne_nil _ _)) hconnect hping
  cases hchosen
  obtain ⟨hworld, hfound⟩ := hlooks.of_script rfl
  obtain ⟨report, hreport, hgone⟩ : ∃ report ∈ reports, report.1 = "gone" :=
    List.mem_map.1 (hnames ▸ List.mem_cons_of_mem _ List.mem_cons_self)
  -- The script has no table of this name, so it is the one that is complained about.
  have hmissing : ¬ ∃ schema, report.2 = .ok schema := by
    rintro ⟨schema, hschema⟩
    rw [hfound report hreport, hgone] at hschema
    cases hschema
  have hexit : t.exit ≠ 0 := fun hzero =>
    hmissing (hshows.exit_eq_zero_iff.1 hzero report hreport)
  have hlog : w'.log = [plain "SELECT 1"] ++ (reports.map (·.1)).map (catalogQuery d.dialect) := by
    rw [hworld, List.map_map]
    rfl
  rw [hnames] at hlog
  exact ⟨reports, t, w', hrun, hnames, hlooks, hshows, (hshows.refused hexit).1, hlog⟩

end Program.Preflight

end GridQuery
