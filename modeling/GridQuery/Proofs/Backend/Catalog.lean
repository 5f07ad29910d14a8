import GridQuery.Proofs.Backend.Answers

/-!
# What a catalog reports

The columns of a table are asked for with one catalog query, and what is known of the table
follows from the answer to this query alone: a failure, or a result that cannot be read, or no
column at all, or the columns in the order of the rows. Looking at several tables is one query after
the other, whatever came back before.

Main results: `Connection.describe_reported`, and `Connection.Looks.of_script` for a scripted
database.
-/

namespace GridQuery

variable {σ : Type}

/-! ## What a catalog reports -/

namespace Connection

/-- The catalog query for a table. -/
def catalogQuery (d : Dialect) (table : String) : Statement := ⟨d.describeSql, [.text table]⟩

/-- What is known of a table after the answer to its catalog query. The first row that has no name
or no type is a failure, as the failure of the query is. -/
inductive Reported (mismatch : Target → Cell → String) (d : Dialect) (table : String) :
    Except DatabaseError ResultSet → Except SchemaFailure Schema → Prop
  | failed (e : DatabaseError) : Reported mismatch d table (.error e) (.error (.catalog d table e))
  | unreadable {rs : ResultSet} {e : DatabaseError}
      (h : FirstFault (fun row => ∃ column, ResultSet.Reports row column)
        (ResultSet.ColumnFault mismatch) rs.rows e) :
      Reported mismatch d table (.ok rs) (.error (.catalog d table e))
  | missing {rs : ResultSet} (hrows : rs.rows = []) :
      Reported mismatch d table (.ok rs) (.error (.tableNotFound d table))
  | described {rs : ResultSet} {columns : List (String × String)} (hrows : rs.rows ≠ [])
      (h : List.Forall₂ ResultSet.Reports rs.rows columns) :
      Reported mismatch d table (.ok rs)
        (.ok (columns.map fun column => ⟨column.1, column.2, d.category column.2⟩))

/-- One catalog query is sent for each table, and this is found. -/
inductive Looks (c : Connection σ) (d : Dialect) :
    σ → List (String × Except SchemaFailure Schema) → σ → Prop
  | done (w : σ) : Looks c d w [] w
  | next {w w' w'' : σ} {table : String} {answer : Except DatabaseError ResultSet}
      {found : Except SchemaFailure Schema}
      {reports : List (String × Except SchemaFailure Schema)}
      (h : c.execute (catalogQuery d table) w = (answer, w'))
      (hfound : Reported c.mismatch d table answer found)
      (rest : Looks c d w' reports w'') : Looks c d w ((table, found) :: reports) w''

variable {c : Connection σ} {w w' : σ} {d : Dialect}

theorem reported_of_columns {mismatch : Target → Cell → String} {table : String} {rs : ResultSet}
    {columns : List (String × String)} (h : List.Forall₂ ResultSet.Reports rs.rows columns) :
    Reported mismatch d table (.ok rs) (Backend.schemaOf d table columns) := by
  cases columns with
  | nil => exact .missing (List.forall₂_nil_right_iff.1 h)
  | cons column columns =>
    have hrows : rs.rows ≠ [] := by
      intro hnil
      rw [hnil] at h
      cases h
    exact .described hrows h

theorem describe_reported {table : String} {answer : Except DatabaseError ResultSet}
    (h : c.execute (catalogQuery d table) w = (answer, w')) :
    ∃ found, (c.describe d table).Gives w found w' ∧
      Reported c.mismatch d table answer found := by
  have hsend := gives_send h
  cases answer with
  | error e => exact ⟨_, hsend.bind (.pure _ w'), .failed e⟩
  | ok rs =>
    cases hread : rs.decodeCatalog c.mismatch with
    | error e =>
      refine ⟨_, hsend.bind ?_, .unreadable
        (((ResultSet.checks_decodeCatalog c.mismatch).error_iff rs e).1 hread)⟩
      simp only [Except.bind, hread]
      exact .pure _ w'
    | ok columns =>
      refine ⟨_, hsend.bind ?_, reported_of_columns (ResultSet.decodeCatalog_eq_ok_iff.1 hread)⟩
      simp only [Except.bind, hread]
      exact .pure _ w'

/-! ## Scripted databases -/

open Text

theorem occurs_iff {piece cs : List Char} : occurs piece cs = true ↔ piece <:+: cs := by
  induction cs with
  | nil => simp [occurs]
  | cons c cs ih =>
    rw [occurs, Bool.or_eq_true, ih, List.isPrefixOf_iff_prefix, List.infix_cons_iff]

/-- What stands in a part of a text stands in the text. -/
theorem containsText_asciiLower {before part middle after piece : String}
    (h : piece.toList <:+: part.toList.map Char.toLower) :
    containsText (asciiLower (before ++ part ++ middle ++ after)) piece = true := by
  obtain ⟨xs, ys, hpart⟩ := h
  rw [containsText, asciiLower, occurs_iff, String.toList_ofList]
  simp only [String.toList_append, List.map_append, ← hpart]
  refine ⟨before.toList.map Char.toLower ++ xs,
    ys ++ middle.toList.map Char.toLower ++ after.toList.map Char.toLower, ?_⟩
  simp only [List.append_assoc]

/-- A script answers a catalog query with the columns that it has for the table. -/
theorem result_catalogQuery (script : Script) (d : Dialect) (table : String) :
    script.result (catalogQuery d table) =
      ⟨((script.tables.lookup table).getD []).map fun c => [.text c.1, .text c.2]⟩ := by
  have hcatalog : containsText (asciiLower d.describeSql) "information_schema.columns" = true := by
    cases d with
    | mysql => exact containsText_asciiLower (by decide +kernel)
    | postgres => exact containsText_asciiLower (by decide +kernel)
  rw [Script.result, catalogQuery, if_pos hcatalog]
  rfl

/-- Rows of a name and a type are read as they stand. -/
theorem Reported.eq_schemaOf {mismatch : Target → Cell → String} {table : String}
    {columns : List (String × String)} {found : Except SchemaFailure Schema}
    (h : Reported mismatch d table (.ok ⟨columns.map fun c => [.text c.1, .text c.2]⟩) found) :
    found = Backend.schemaOf d table columns := by
  have hreports : List.Forall₂ ResultSet.Reports
      (columns.map fun c => [Cell.text c.1, .text c.2]) columns := by
    rw [List.forall₂_map_left_iff]
    exact List.forall₂_same.2 fun c _ => ⟨rfl, rfl⟩
  have hread : ResultSet.decodeCatalog mismatch ⟨columns.map fun c => [.text c.1, .text c.2]⟩ =
      .ok columns := ResultSet.decodeCatalog_eq_ok_iff.2 hreports
  cases h with
  | unreadable h =>
    have hchecks := ResultSet.checks_decodeCatalog mismatch
    exact absurd h (hchecks.not_faulty (hchecks.sound_of_ok hread))
  | missing hrows =>
    rw [List.map_eq_nil_iff.1 hrows]
    rfl
  | @described _ columns' hrows h =>
    rw [ResultSet.decodeCatalog_eq_ok_iff.2 h] at hread
    obtain rfl := Except.ok.inj hread
    have hcolumns : ¬ columns'.isEmpty = true := by simpa using hrows
    rw [Backend.schemaOf, if_neg hcolumns]

/-- In a script without failures a table has the columns that the script has for it, and nothing but
the catalog queries is logged. -/
theorem Looks.of_script {script : Script} (h : script.failures = []) {log : List Statement}
    {reports : List (String × Except SchemaFailure Schema)} {w' : Script.Session}
    (hlooks : Script.connection.Looks d ⟨script, log⟩ reports w') :
    w' = ⟨script, log ++ reports.map fun report => catalogQuery d report.1⟩ ∧
      ∀ report ∈ reports, report.2 =
        Backend.schemaOf d report.1 ((script.tables.lookup report.1).getD []) := by
  generalize hw : (⟨script, log⟩ : Script.Session) = w at hlooks
  -- Induction on the looks, each of which adds one catalog query to the log.
  induction hlooks generalizing log with
  | done w =>
    subst hw
    exact ⟨by rw [List.map_nil, List.append_nil], nofun⟩
  | @next _ _ _ table answer found reports hanswer hfound _ ih =>
    subst hw
    have hexecute : Script.connection.execute (catalogQuery d table) ⟨script, log⟩ =
        (.ok (script.result (catalogQuery d table)), ⟨script, log ++ [catalogQuery d table]⟩) :=
      execute_of_script script h log _
    rw [hanswer, result_catalogQuery] at hexecute
    obtain ⟨rfl, rfl⟩ := Prod.mk.inj hexecute
    obtain ⟨hlog, hrest⟩ := ih rfl
    rw [List.append_assoc] at hlog
    exact ⟨hlog, List.forall_mem_cons.2 ⟨hfound.eq_schemaOf, hrest⟩⟩

end Connection

end GridQuery
