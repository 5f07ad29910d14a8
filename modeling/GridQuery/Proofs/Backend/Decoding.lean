import GridQuery.Backend.Script
import GridQuery.Proofs.Grid.Record
import GridQuery.Proofs.Traversal

/-!
# What is read from cells

A result is read cell by cell, and the first cell that cannot be read is the end of it. A page wants
a text or NULL under each selected column, a count an integer in its first cell, and a catalog a
name and a type in each row. For each of them stand here what is read and each way in which a cell
is not what is wanted, without the functions that read; for every result it is then one or the
other.

Main results: `ResultSet.checks_decodeRows`, `ResultSet.checks_decodeCount` and
`ResultSet.checks_decodeCatalog`, with `decodeRows_eq_ok_iff` and its like for what is read.
-/

namespace GridQuery

variable {mismatch : Target → Cell → String}

/-! ## Rows of cells -/

/-- The row of the cells that stand under the selected columns. -/
def Row.ofCells (selected : List SelectedColumn) (cells : List (Option String)) : Row :=
  Members.ofList ((selected.zip cells).map fun x => (x.1.source, Json.ofCell x.1.category x.2))

theorem Row.sources_zip {selected : List SelectedColumn} {cells : List (Option String)}
    (h : cells.length = selected.length) :
    ((selected.zip cells).map fun x => (x.1.source, Json.ofCell x.1.category x.2)).map (·.1) =
      selected.map (·.source) := by
  have hselected : (selected.zip cells).map Prod.fst = selected :=
    List.map_fst_zip (Nat.le_of_eq h.symm)
  conv_rhs => rw [← hselected]
  rw [List.map_map, List.map_map]
  rfl

/-- Under a selected source stands what is read from the cell at its place. -/
theorem Row.get?_ofCells {selected : List SelectedColumn} {cells : List (Option String)}
    (h : cells.length = selected.length) (hnodup : (selected.map (·.source)).Nodup) {i : Nat}
    {c : SelectedColumn} {t : Option String} (hc : selected[i]? = some c)
    (ht : cells[i]? = some t) :
    (ofCells selected cells).get? c.source = some (Json.ofCell c.category t) := by
  have hpair : (c, t) ∈ selected.zip cells :=
    List.mem_iff_getElem?.2 ⟨i, List.getElem?_zip_eq_some.2 ⟨hc, ht⟩⟩
  exact Members.get?_ofList_of_mem (Row.sources_zip h ▸ hnodup) (List.mem_map_of_mem hpair)

theorem Row.get?_ofCells_of_not_mem {selected : List SelectedColumn} {cells : List (Option String)}
    (h : cells.length = selected.length) {source : String}
    (hsource : source ∉ selected.map (·.source)) : (ofCells selected cells).get? source = none :=
  Members.get?_ofList_of_not_mem (Row.sources_zip h ▸ hsource)

/-- The row of a result begins with these cells, which are texts and NULLs. -/
def BeginsWith (row : List Cell) (cells : List (Option String)) : Prop :=
  cells.map Script.cellOf <+: row

/-- The row of a result has a text or NULL under each of so many columns. -/
def Covers (columns : Nat) (row : List Cell) : Prop :=
  ∃ cells, cells.length = columns ∧ BeginsWith row cells

/-- The values under the selected columns are those of the row's first cells. -/
def Row.ReadFrom (selected : List SelectedColumn) (row : List Cell) (r : Row) : Prop :=
  ∃ cells, cells.length = selected.length ∧ BeginsWith row cells ∧ r = ofCells selected cells

/-- The first of so many columns that has neither text nor NULL in the row, and what is wrong. -/
inductive RowFault (mismatch : Target → Cell → String) (columns : Nat) (row : List Cell) :
    DatabaseError → Prop
  | missing {i : Nat} (hi : i < columns) (hbefore : Covers i row) (h : row[i]? = none) :
      RowFault mismatch columns row (.noColumn row.length i)
  | mistyped {i : Nat} {n : Int} (hi : i < columns) (hbefore : Covers i row)
      (h : row[i]? = some (.int n)) : RowFault mismatch columns row
        (.undecoded (toString i) (mismatch .optionalText (.int n)))

theorem BeginsWith.getElem? {row : List Cell} {cells : List (Option String)}
    (h : BeginsWith row cells) {i : Nat} (hi : i < cells.length) :
    row[i]? = some (Script.cellOf cells[i]) := by
  have hget := List.prefix_iff_getElem?.1 h i (by simpa using hi)
  rwa [List.getElem_map] at hget

/-- A text or NULL behind cells that a row begins with is one more of them. -/
theorem Covers.succ {columns : Nat} {row : List Cell} (h : Covers columns row) {t : Option String}
    (ht : row[columns]? = some (Script.cellOf t)) : Covers (columns + 1) row := by
  obtain ⟨cells, rfl, hcells⟩ := h
  refine ⟨cells ++ [t], by simp, ?_⟩
  obtain ⟨rest, rfl⟩ := hcells
  rw [← List.length_map Script.cellOf, List.getElem?_append_right (Nat.le_refl _),
    Nat.sub_self] at ht
  obtain ⟨rest, rfl⟩ := List.head?_eq_some_iff.1 (List.head?_eq_getElem? ▸ ht)
  exact ⟨rest, by simp⟩

theorem covers_or_fault (mismatch : Target → Cell → String) (columns : Nat) (row : List Cell) :
    Covers columns row ∨ ∃ e, RowFault mismatch columns row e := by
  induction columns with
  | zero => exact .inl ⟨[], rfl, List.nil_prefix⟩
  | succ i ih =>
    rcases ih with hbefore | ⟨e, he⟩
    · have hi := Nat.lt_succ_self i
      cases hcell : row[i]? with
      | none => exact .inr ⟨_, .missing hi hbefore hcell⟩
      | some c =>
        cases c with
        | null => exact .inl (hbefore.succ (t := none) hcell)
        | text s => exact .inl (hbefore.succ (t := some s) hcell)
        | int n => exact .inr ⟨_, .mistyped hi hbefore hcell⟩
    · -- A fault under the columns before stays the first one.
      refine .inr ⟨e, ?_⟩
      cases he with
      | missing hi hbefore h => exact .missing (Nat.lt_succ_of_lt hi) hbefore h
      | mistyped hi hbefore h => exact .mistyped (Nat.lt_succ_of_lt hi) hbefore h

namespace ResultSet

variable {selected : List SelectedColumn}

/-- A text or NULL is read as it is. -/
theorem decode_cellOf {row : List Cell} {i : Nat} {t : Option String}
    (h : row[i]? = some (Script.cellOf t)) :
    (Place.at i).decode (Cell.asOptionalText mismatch) row = .ok t := by
  rw [Place.decode, Place.index, h]
  cases t <;> rfl

/-- The value that a row of cells has under a selected column. -/
def valueAt (cells : List (Option String)) (x : SelectedColumn × Nat) : String × Json :=
  (x.1.source, Json.ofCell x.1.category (cells.getD x.2 none))

/-- The value under a selected column, read from the cell at its place. -/
def decodeValue (mismatch : Target → Cell → String) (row : List Cell) (x : SelectedColumn × Nat) :
    Except DatabaseError (String × Json) := do
  let text ← (Place.at x.2).decode (Cell.asOptionalText mismatch) row
  return (x.1.source, Json.ofCell x.1.category text)

theorem decodeRow_eq (row : List Cell) : decodeRow mismatch selected row =
    (selected.zipIdx.mapM (decodeValue mismatch row)).map Members.ofList := rfl

theorem decodeValue_of_beginsWith {row : List Cell} {cells : List (Option String)}
    (h : BeginsWith row cells) {x : SelectedColumn × Nat} (hx : x.2 < cells.length) :
    decodeValue mismatch row x = .ok (valueAt cells x) := by
  have hget : cells.getD x.2 none = cells[x.2] := by
    rw [List.getD_eq_getElem?_getD, List.getElem?_eq_getElem hx, Option.getD_some]
  rw [decodeValue, decode_cellOf (h.getElem? hx), valueAt, hget]
  rfl

theorem decodeRow_of_beginsWith {row : List Cell} {cells : List (Option String)}
    (hlength : cells.length = selected.length) (h : BeginsWith row cells) :
    decodeRow mismatch selected row = .ok (Row.ofCells selected cells) := by
  -- The places of the select list are those of the cells.
  have hzip : selected.zipIdx.map (valueAt cells) =
      (selected.zip cells).map fun x => (x.1.source, Json.ofCell x.1.category x.2) := by
    refine List.ext_getElem (by simp [hlength]) fun i hi hi' => ?_
    have hlt : i < cells.length := by simpa [hlength] using hi
    simp [valueAt, hlt]
  have hvalues : ∀ x ∈ selected.zipIdx, decodeValue mismatch row x = .ok (valueAt cells x) :=
    fun x hx => decodeValue_of_beginsWith h (hlength ▸ List.snd_lt_of_mem_zipIdx hx)
  rw [decodeRow_eq, mapM_of_pure hvalues, hzip]
  rfl

/-- The places before the first one at fault are read, and that one is not. -/
theorem decodeRow_of_fault {row : List Cell} {e : DatabaseError}
    (h : RowFault mismatch selected.length row e) :
    decodeRow mismatch selected row = .error e := by
  obtain ⟨i, hi, hbefore, he⟩ : ∃ i, ∃ hi : i < selected.length, Covers i row ∧
      decodeValue mismatch row (selected[i], i) = .error e := by
    cases h with
    | @missing i hi hbefore h =>
      exact ⟨i, hi, hbefore, by rw [decodeValue, Place.decode, Place.index, h]; rfl⟩
    | @mistyped i n hi hbefore h =>
      exact ⟨i, hi, hbefore, by rw [decodeValue, Place.decode, Place.index, h]; rfl⟩
  obtain ⟨cells, rfl, hcells⟩ := hbefore
  have hchecks : Checks (decodeValue mismatch row)
      (fun x => ∃ v, decodeValue mismatch row x = .ok v)
      (fun x e => decodeValue mismatch row x = .error e) := ⟨fun _ => .rfl, fun _ _ => .rfl⟩
  -- The selected columns are parted at the faulty place; those in front of it are all read.
  have hsplit : selected.zipIdx = selected.zipIdx.take cells.length ++
      (selected[cells.length], cells.length) :: selected.zipIdx.drop (cells.length + 1) := by
    have hlt : cells.length < selected.zipIdx.length := by simpa using hi
    have hget : selected.zipIdx[cells.length] = (selected[cells.length], cells.length) := by simp
    rw [← hget, List.getElem_cons_drop, List.take_append_drop]
  rw [decodeRow_eq, (hchecks.mapM.error_iff _ e).2 ⟨_, _, _, hsplit, fun x hx => ?_, he⟩]
  · rfl
  · obtain ⟨j, hj, hget⟩ := List.mem_take_iff_getElem.1 hx
    have hlt : j < cells.length := Nat.lt_of_lt_of_le hj (Nat.min_le_left _ _)
    rw [← hget]
    exact ⟨_, decodeValue_of_beginsWith hcells (by simpa using hlt)⟩

theorem checks_decodeRow (mismatch : Target → Cell → String) (selected : List SelectedColumn) :
    Checks (decodeRow mismatch selected) (Covers selected.length)
      (RowFault mismatch selected.length) := by
  refine .of_alternative ?_ (fun _ _ => decodeRow_of_fault) (covers_or_fault mismatch _)
  rintro row ⟨cells, hlength, hcells⟩
  exact ⟨_, decodeRow_of_beginsWith hlength hcells⟩

theorem decodeRow_eq_ok_iff {row : List Cell} {r : Row} :
    decodeRow mismatch selected row = .ok r ↔ Row.ReadFrom selected row r := by
  refine (checks_decodeRow mismatch selected).eq_ok_iff ?_ ?_
  · rintro row r ⟨cells, hlength, hcells, rfl⟩
    exact decodeRow_of_beginsWith hlength hcells
  · rintro row ⟨cells, hlength, hcells⟩
    exact ⟨_, cells, hlength, hcells, rfl⟩

/-- **The rows of a page are read unless some cell is not text or NULL,** and the first such cell of
the first such row is the fault. -/
theorem checks_decodeRows (mismatch : Target → Cell → String) (selected : List SelectedColumn) :
    Checks (decodeRows mismatch selected) (fun rs => ∀ row ∈ rs.rows, Covers selected.length row)
      (fun rs => FirstFault (Covers selected.length) (RowFault mismatch selected.length) rs.rows) :=
  have hrows := (checks_decodeRow mismatch selected).mapM
  ⟨fun rs => hrows.ok_iff rs.rows, fun rs => hrows.error_iff rs.rows⟩

theorem decodeRows_eq_ok_iff {rs : ResultSet} {rows : List Row} :
    rs.decodeRows mismatch selected = .ok rows ↔
      List.Forall₂ (Row.ReadFrom selected) rs.rows rows := by
  simp only [decodeRows, mapM_eq_ok_iff, decodeRow_eq_ok_iff]

/-- The result holds rows of texts, each with as many cells as there are columns. -/
structure Holds (rs : ResultSet) (columns : Nat) (rows : List (List (Option String))) : Prop where
  cells : rs.rows = rows.map fun row => row.map Script.cellOf
  width : ∀ row ∈ rows, row.length = columns

theorem decodeRows_of_holds {rs : ResultSet} {rows : List (List (Option String))}
    (h : rs.Holds selected.length rows) :
    rs.decodeRows mismatch selected = .ok (rows.map (Row.ofCells selected)) := by
  rw [decodeRows, h.cells, List.mapM_map]
  exact mapM_of_pure fun row hrow => decodeRow_of_beginsWith (h.width row hrow) List.prefix_rfl

/-! ## Counts -/

/-- The result of a count. -/
def count (n : Int) : ResultSet := ⟨[[.int n]]⟩

/-- The first cell is an integer, and the count is that integer, or 0 if it is negative. -/
inductive Counts : ResultSet → Nat → Prop
  | first (n : Int) (row : List Cell) (rows : List (List Cell)) :
      Counts ⟨(.int n :: row) :: rows⟩ n.toNat

/-- The first cell is none, or is no integer. -/
inductive CountFault (mismatch : Target → Cell → String) : ResultSet → DatabaseError → Prop
  | noRow : CountFault mismatch ⟨[]⟩ .noRow
  | missing (rows : List (List Cell)) : CountFault mismatch ⟨[] :: rows⟩ (.noColumn 0 0)
  | null (row : List Cell) (rows : List (List Cell)) :
      CountFault mismatch ⟨(.null :: row) :: rows⟩ (.undecoded "0" Cell.unexpectedNull)
  | mistyped (s : String) (row : List Cell) (rows : List (List Cell)) :
      CountFault mismatch ⟨(.text s :: row) :: rows⟩
        (.undecoded "0" (mismatch .integer (.text s)))

theorem decodeCount_of_counts {rs : ResultSet} {n : Nat} (h : Counts rs n) :
    rs.decodeCount mismatch = .ok n := by
  cases h with
  | first n row rows => rfl

theorem decodeCount_of_fault {rs : ResultSet} {e : DatabaseError} (h : CountFault mismatch rs e) :
    rs.decodeCount mismatch = .error e := by
  cases h with
  | noRow => rfl
  | missing rows => rfl
  | null row rows => rfl
  | mistyped s row rows => rfl

theorem counts_or_fault (mismatch : Target → Cell → String) (rs : ResultSet) :
    (∃ n, Counts rs n) ∨ ∃ e, CountFault mismatch rs e := by
  obtain ⟨rows⟩ := rs
  cases rows with
  | nil => exact .inr ⟨_, .noRow⟩
  | cons row rows =>
    cases row with
    | nil => exact .inr ⟨_, .missing rows⟩
    | cons c row =>
      cases c with
      | null => exact .inr ⟨_, .null row rows⟩
      | text s => exact .inr ⟨_, .mistyped s row rows⟩
      | int n => exact .inl ⟨_, .first n row rows⟩

/-- **A count is read unless the first cell is no integer.** -/
theorem checks_decodeCount (mismatch : Target → Cell → String) :
    Checks (decodeCount mismatch) (fun rs => ∃ n, Counts rs n) (CountFault mismatch) :=
  .of_alternative (fun _ ⟨n, h⟩ => ⟨n, decodeCount_of_counts h⟩)
    (fun _ _ => decodeCount_of_fault) (counts_or_fault mismatch)

theorem decodeCount_eq_ok_iff {rs : ResultSet} {n : Nat} :
    rs.decodeCount mismatch = .ok n ↔ Counts rs n :=
  (checks_decodeCount mismatch).eq_ok_iff (fun _ _ => decodeCount_of_counts) fun _ h => h

/-! ## Catalogs -/

/-- The row reports a column of the name and the type. -/
def Reports (row : List Cell) (column : String × String) : Prop :=
  row[0]? = some (.text column.1) ∧ row[1]? = some (.text column.2)

/-- The cell under the name is missing, or is no text. -/
inductive NameFault (mismatch : Target → Cell → String) (name : String) :
    Option Cell → DatabaseError → Prop
  | missing : NameFault mismatch name none (.noColumnNamed name)
  | null : NameFault mismatch name (some .null)
      (.undecoded ("\"" ++ name ++ "\"") Cell.unexpectedNull)
  | mistyped (n : Int) : NameFault mismatch name (some (.int n))
      (.undecoded ("\"" ++ name ++ "\"") (mismatch .text (.int n)))

/-- The name of a column that the row should report is no text, or else its type is none. -/
inductive ColumnFault (mismatch : Target → Cell → String) (row : List Cell) :
    DatabaseError → Prop
  | name {e : DatabaseError} (h : NameFault mismatch "column_name" row[0]? e) :
      ColumnFault mismatch row e
  | type {name : String} {e : DatabaseError} (hname : row[0]? = some (.text name))
      (h : NameFault mismatch "column_type" row[1]? e) : ColumnFault mismatch row e

theorem decode_text {p : Place} {row : List Cell} {s : String}
    (h : row[p.index]? = some (.text s)) : p.decode (Cell.asText mismatch) row = .ok s := by
  rw [Place.decode, h]
  rfl

theorem decode_of_nameFault {name : String} {i : Nat} {row : List Cell} {e : DatabaseError}
    (hname : Text.quoted name = "\"" ++ name ++ "\"") (h : NameFault mismatch name row[i]? e) :
    (Place.named name i).decode (Cell.asText mismatch) row = .error e := by
  rw [Place.decode, Place.index, Place.label, hname]
  cases hcell : row[i]? with
  | none =>
    rw [hcell] at h
    cases h
    rfl
  | some c =>
    rw [hcell] at h
    cases h with
    | null => rfl
    | mistyped n => rfl

theorem text_or_nameFault (mismatch : Target → Cell → String) (name : String)
    (cell : Option Cell) :
    (∃ s, cell = some (.text s)) ∨ ∃ e, NameFault mismatch name cell e := by
  cases cell with
  | none => exact .inr ⟨_, .missing⟩
  | some c =>
    cases c with
    | null => exact .inr ⟨_, .null⟩
    | text s => exact .inl ⟨s, rfl⟩
    | int n => exact .inr ⟨_, .mistyped n⟩

theorem decodeColumn_of_reports {row : List Cell} {column : String × String}
    (h : Reports row column) : decodeColumn mismatch row = .ok column := by
  have hname : (Place.named "column_name" 0).decode (Cell.asText mismatch) row = .ok column.1 :=
    decode_text h.1
  have htype : (Place.named "column_type" 1).decode (Cell.asText mismatch) row = .ok column.2 :=
    decode_text h.2
  rw [decodeColumn, hname, htype]
  rfl

theorem decodeColumn_of_fault {row : List Cell} {e : DatabaseError}
    (h : ColumnFault mismatch row e) : decodeColumn mismatch row = .error e := by
  rw [decodeColumn]
  cases h with
  | name h =>
    rw [decode_of_nameFault (by decide +kernel) h]
    rfl
  | @type name _ hname h =>
    have hread : (Place.named "column_name" 0).decode (Cell.asText mismatch) row = .ok name :=
      decode_text hname
    rw [hread, decode_of_nameFault (by decide +kernel) h]
    rfl

theorem reports_or_fault (mismatch : Target → Cell → String) (row : List Cell) :
    (∃ column, Reports row column) ∨ ∃ e, ColumnFault mismatch row e := by
  rcases text_or_nameFault mismatch "column_name" row[0]? with ⟨name, hname⟩ | ⟨e, he⟩
  · rcases text_or_nameFault mismatch "column_type" row[1]? with ⟨type, htype⟩ | ⟨e, he⟩
    · exact .inl ⟨(name, type), hname, htype⟩
    · exact .inr ⟨e, .type hname he⟩
  · exact .inr ⟨e, .name he⟩

theorem checks_decodeColumn (mismatch : Target → Cell → String) :
    Checks (decodeColumn mismatch) (fun row => ∃ column, Reports row column)
      (ColumnFault mismatch) :=
  .of_alternative (fun _ ⟨column, h⟩ => ⟨column, decodeColumn_of_reports h⟩)
    (fun _ _ => decodeColumn_of_fault) (reports_or_fault mismatch)

theorem decodeColumn_eq_ok_iff {row : List Cell} {column : String × String} :
    decodeColumn mismatch row = .ok column ↔ Reports row column :=
  (checks_decodeColumn mismatch).eq_ok_iff (fun _ _ => decodeColumn_of_reports) fun _ h => h

/-- **A catalog is read unless some name or type is no text.** -/
theorem checks_decodeCatalog (mismatch : Target → Cell → String) :
    Checks (decodeCatalog mismatch) (fun rs => ∀ row ∈ rs.rows, ∃ column, Reports row column)
      (fun rs => FirstFault (fun row => ∃ column, Reports row column) (ColumnFault mismatch)
        rs.rows) :=
  have hrows := (checks_decodeColumn mismatch).mapM
  ⟨fun rs => hrows.ok_iff rs.rows, fun rs => hrows.error_iff rs.rows⟩

theorem decodeCatalog_eq_ok_iff {rs : ResultSet} {columns : List (String × String)} :
    rs.decodeCatalog mismatch = .ok columns ↔ List.Forall₂ Reports rs.rows columns := by
  simp only [decodeCatalog, mapM_eq_ok_iff, decodeColumn_eq_ok_iff]

end ResultSet

end GridQuery
