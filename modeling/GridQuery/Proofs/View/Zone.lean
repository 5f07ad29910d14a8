import Mathlib.Data.Option.Basic
import GridQuery.Proofs.View.Loading

/-!
# Views that ask for a zone

A format is refused when it has an unknown directive, but a directive for a zone is known: a view
with such a format is loaded, and its column has no value for a text that shows a datetime. All
other formats, and all other transforms, give a value for whatever stands in the cell.

Main result: `Registry.views_written_iff`, when exactly the columns of a loaded view can be
written.
-/

namespace GridQuery

/-! ## Formats -/

namespace DateFormat

theorem itemChars?_eq_none {t : DateTime} {i : FormatItem} : itemChars? t i = none ↔ i = .zone := by
  cases i <;> simp [itemChars?]

/-- The zone is all that a datetime cannot be asked for. -/
theorem render?_eq_none {f : DateFormat} {t : DateTime} :
    f.render? t = none ↔ f.asksZone = true := by
  rw [render?, Option.map_eq_none_iff, mapM_eq_none_iff]
  simp [itemChars?_eq_none, asksZone]

end DateFormat

/-! ## Values -/

/-- The value is a text that shows a datetime. -/
def Json.showsDateTime (v : Json) : Bool := (v.text?.bind Calendar.readCell).isSome

namespace Transform

def asksZone : Transform → Bool
  | .dateFormat f => f.asksZone
  | _ => false

theorem onText_eq_none {t : Transform} {s : String} :
    t.onText s = none ↔ t.asksZone = true ∧ (Calendar.readCell s).isSome = true := by
  cases t with
  | dateFormat f =>
    simp only [onText, asksZone]
    cases hs : Calendar.readCell s with
    | none => simp
    | some dt => simp [DateFormat.render?_eq_none]
  | _ => simp [onText, asksZone]

theorem toCellTransform_eq_none {t : Transform} {v : Json} {row : Row} :
    t.toCellTransform v row = none ↔ t.asksZone = true ∧ v.showsDateTime = true := by
  cases v with
  | string s => simp [toCellTransform, onValue, onText_eq_none, Json.showsDateTime, Json.text?]
  | _ => simp [toCellTransform, onValue, Json.showsDateTime, Json.text?]

end Transform

/-! ## Rows -/

namespace Column

theorem record_eq_none {columns : List Column} {row : Row} :
    record columns row = none ↔ ∃ c ∈ columns, c.value row = none := by
  rw [record, Option.map_eq_none_iff, mapM_eq_none_iff]
  simp

theorem records_eq_none {columns : List Column} {rows : List Row} :
    records columns rows = none ↔ ∃ row ∈ rows, ∃ c ∈ columns, c.value row = none := by
  rw [records, mapM_eq_none_iff]
  simp only [record_eq_none]

end Column

/-! ## Entries of a document -/

/-- The transform is a format that asks for the zone. -/
def TransformEntry.asksZone : TransformEntry → Bool
  | .dateFormat format => (DateFormat.ofText? format).any (·.asksZone)
  | _ => false

def ColumnEntry.asksZone (e : ColumnEntry) : Bool := e.transform.any (·.asksZone)

theorem Transform.asksZone_ofEntry {e : TransformEntry} {t : Transform} (h : ofEntry e = .ok t) :
    t.asksZone = e.asksZone := by
  cases e with
  | dateFormat format =>
    simp only [ofEntry] at h
    split at h
    · rename_i f hf
      cases h
      simp [asksZone, TransformEntry.asksZone, hf]
    · cases h
  | _ =>
    cases h
    rfl

/-! ## What can be written -/

section

variable {e : ColumnEntry} {c : Column}

theorem Column.transform_eq_none (h : ofEntry e = .ok c) {t : CellTransform}
    (ht : c.transform = some t) {v : Json} {row : Row} :
    t v row = none ↔ e.asksZone = true ∧ v.showsDateTime = true := by
  obtain ⟨t', hrel, rfl⟩ := ofEntry_ok h
  obtain ⟨t', rfl, rfl⟩ := Option.map_eq_some_iff.1 ht
  cases hte : e.transform with
  | none =>
    rw [hte] at hrel
    cases hrel
  | some te =>
    rw [hte] at hrel
    cases hrel with
    | some hok =>
      rw [Transform.toCellTransform_eq_none, Transform.asksZone_ofEntry hok]
      simp [ColumnEntry.asksZone, hte]

theorem Column.value_eq_none (h : ofEntry e = .ok c) {row : Row} :
    c.value row = none ↔
      e.asksZone = true ∧ ((row.get? e.source).getD .null).showsDateTime = true := by
  have hsource : c.source = e.source := by
    obtain ⟨t, -, rfl⟩ := ofEntry_ok h
    rfl
  have hplain : c.transform = none → e.asksZone = false := by
    intro hnone
    obtain ⟨t, hrel, rfl⟩ := ofEntry_ok h
    rw [Option.map_eq_none_iff] at hnone
    subst hnone
    cases hte : e.transform with
    | none => simp [ColumnEntry.asksZone, hte]
    | some te =>
      rw [hte] at hrel
      cases hrel
  rw [value, hsource]
  cases ht : c.transform with
  | none => simp [hplain ht]
  | some t => exact transform_eq_none h ht

end

/-- What can be written of a view, by the entry that it was made from. -/
structure View.Writes (e : ViewEntry) (v : View) : Prop where
  /-- A value is missing exactly for a text that shows a datetime, under a format that asks for
  the zone. -/
  transforms : List.Forall₂ (fun (k : ColumnEntry) (c : Column) =>
    ∀ t, c.transform = some t → ∀ value row,
      t value row = none ↔ k.asksZone = true ∧ value.showsDateTime = true) e.columns v.columns
  /-- Rows have no records exactly when such a text stands in one of them. -/
  records : ∀ rows, Column.records v.columns rows = none ↔
    ∃ row ∈ rows, ∃ k ∈ e.columns,
      k.asksZone = true ∧ ((row.get? k.source).getD .null).showsDateTime = true
  /-- Everything can be written exactly when no format asks for the zone. -/
  always : ((∀ c ∈ v.columns, ∀ t, c.transform = some t → ∀ value row, t value row ≠ none) ∧
      ∀ rows, Column.records v.columns rows ≠ none) ↔
    ∀ k ∈ e.columns, k.asksZone = false

/-- A text that shows a datetime. -/
def sampleDate : Json := .string "2024-01-05"

theorem showsDateTime_sampleDate : sampleDate.showsDateTime = true := by decide +kernel

theorem View.writes_ofEntry {name : String} {e : ViewEntry} {v : View}
    (h : ofEntry name e = .ok v) : v.name = name ∧ View.Writes e v := by
  obtain ⟨columns, result, all, hcolumns, -, -, -, -, -, rfl⟩ := ofEntry_ok h
  have hmade := mapM_eq_ok_iff.1 hcolumns
  have hrecords : ∀ rows, Column.records columns rows = none ↔
      ∃ row ∈ rows, ∃ k ∈ e.columns,
        k.asksZone = true ∧ ((row.get? k.source).getD .null).showsDateTime = true := by
    intro rows
    rw [Column.records_eq_none]
    refine exists_congr fun row => and_congr_right fun _ => ?_
    exact (exists_mem_iff_of_forall₂ hmade fun k c hk => (Column.value_eq_none hk).symm).symm
  refine ⟨rfl, ?_, hrecords, ?_⟩
  · exact hmade.imp fun k c hk t ht value row => Column.transform_eq_none hk ht
  constructor
  · rintro ⟨-, hwritten⟩ k hk
    by_contra hzone
    -- One row with a date under the column's source has no record.
    refine hwritten [[(k.source, sampleDate)]] ((hrecords _).2 ?_)
    refine ⟨_, List.mem_cons_self, k, hk, by simpa using hzone, ?_⟩
    simpa [Members.get?] using showsDateTime_sampleDate
  · intro hzone
    refine ⟨fun c hc t ht value row hnone => ?_, fun rows hnone => ?_⟩
    · obtain ⟨k, hk, hkc⟩ := exists_mem_left_of_forall₂ hmade hc
      have hasks := ((Column.transform_eq_none hkc ht).1 hnone).1
      rw [hzone k hk] at hasks
      cases hasks
    · obtain ⟨row, -, k, hk, hasks, -⟩ := (hrecords rows).1 hnone
      rw [hzone k hk] at hasks
      cases hasks

/-- **All of a loaded view can be written unless a format asks for the zone:** each view of a
document has no value, and no records, exactly where such a format meets a text that shows a
datetime. -/
theorem Registry.views_written_iff {text : String} {r : Registry} (h : ofText text = .ok r) :
    ∃ entries, Document.decode ViewEntry.readAll text = .ok entries ∧
      List.Forall₂ (fun p v => v.name = p.1 ∧ View.Writes p.2 v) (sortEntries entries) r.views := by
  obtain ⟨entries, hentries, hviews⟩ := ofText_ok h
  exact ⟨entries, hentries, hviews.imp fun p v hv => View.writes_ofEntry hv⟩

/-- A document of one view, whose column asks for the zone. -/
def zonedText : String :=
  "\x7b\"v\":\x7b\"table\":\"t\",\"columns\":[\x7b\"source\":\"a\",\"transform\":" ++
    "\x7b\"date_format\":\"%z\"\x7d\x7d]\x7d\x7d"

/-- A column of the view has no value for a date, nor has a row with one a record. -/
def View.lacksDate (source : String) (v : View) : Bool :=
  (v.columns.any fun c => c.transform.any fun t => (t sampleDate []).isNone) &&
    (Column.records v.columns [[(source, sampleDate)]]).isNone

theorem Registry.ofText_zonedText :
    (ofText zonedText).toOption.any (·.views.any (View.lacksDate "a")) = true := by
  decide +kernel

theorem Registry.views_written_iff_zonedText :
    ∃ r, ofText zonedText = .ok r ∧
      ∃ entries, Document.decode ViewEntry.readAll zonedText = .ok entries ∧
        List.Forall₂ (fun p v => v.name = p.1 ∧ View.Writes p.2 v) (sortEntries entries)
          r.views := by
  have hloaded := ofText_zonedText
  cases hr : ofText zonedText with
  | error f => simp [hr, Except.toOption] at hloaded
  | ok r => exact ⟨r, rfl, views_written_iff hr⟩

/-- The document is loaded all the same. -/
theorem Registry.zonedText_unwritable :
    ∃ r, ofText zonedText = .ok r ∧ ∃ v ∈ r.views,
      (∃ c ∈ v.columns, ∃ t, c.transform = some t ∧ t sampleDate [] = none) ∧
        Column.records v.columns [[("a", sampleDate)]] = none := by
  have hlacks := ofText_zonedText
  cases hr : ofText zonedText with
  | error f => simp [hr, Except.toOption] at hlacks
  | ok r =>
    rw [hr] at hlacks
    obtain ⟨v, hv, hlacks⟩ := List.any_eq_true.1 hlacks
    rw [View.lacksDate, Bool.and_eq_true, List.any_eq_true] at hlacks
    obtain ⟨⟨c, hc, hvalue⟩, hrecords⟩ := hlacks
    obtain ⟨t, ht, hnone⟩ := (Option.any_eq_true _ _).1 hvalue
    exact ⟨r, rfl, v, hv, ⟨c, hc, t, ht, Option.isNone_iff_eq_none.1 hnone⟩,
      Option.isNone_iff_eq_none.1 hrecords⟩

end GridQuery
