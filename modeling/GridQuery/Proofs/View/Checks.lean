import GridQuery.Proofs.Grid.Record
import GridQuery.Proofs.Text.Trim
import GridQuery.Proofs.View.Loading

/-!
# The checks of a view

Loading a view checks its table, its columns, their formats, their exposed names and its two lists
of conditions, in this order. Each check is stated here on the entry of the document, by what it
lets through and by the fault it reports, and the checks of lists are put together from those of the
members: the first member with a fault has it reported.

Main results: `View.checks_ofEntry`, and `View.keeps_ofEntry` for what a view that passes keeps.
-/

namespace GridQuery

/-! ## Columns -/

/-- A format that the column has can be read. -/
def ColumnEntry.Formatted (k : ColumnEntry) : Prop :=
  ∀ format, k.transform = some (.dateFormat format) → DateFormat.ofText? format ≠ none

/-- The format of the column cannot be read. -/
inductive ColumnEntry.Faulty (k : ColumnEntry) : ViewFault → Prop
  | badFormat {format : String} (htransform : k.transform = some (.dateFormat format))
      (h : DateFormat.ofText? format = none) : Faulty k (.badDateFormat format)

/-- The name under which the column is shown: that of its source unless it has its own. -/
def ColumnEntry.exposedName (k : ColumnEntry) : String := k.exposed.getD k.source

theorem Column.ofEntry_of_formatted {k : ColumnEntry} (h : k.Formatted) :
    ∃ c, ofEntry k = .ok c := by
  unfold ofEntry
  cases htransform : k.transform with
  | none => exact ⟨_, rfl⟩
  | some t =>
    cases t with
    | dateFormat format =>
      obtain ⟨f, hf⟩ := Option.ne_none_iff_exists'.1 (h format htransform)
      exact ⟨_, by simp only [Transform.ofEntry, hf]; rfl⟩
    | uppercase => exact ⟨_, rfl⟩
    | lowercase => exact ⟨_, rfl⟩
    | trim => exact ⟨_, rfl⟩

theorem Column.ofEntry_of_faulty {k : ColumnEntry} {f : ViewFault} (h : k.Faulty f) :
    ofEntry k = .error f := by
  cases h with
  | badFormat htransform hformat =>
    unfold ofEntry
    simp only [htransform, Transform.ofEntry, hformat]
    rfl

theorem ColumnEntry.formatted_or_faulty (k : ColumnEntry) : k.Formatted ∨ ∃ f, k.Faulty f := by
  by_cases h : k.Formatted
  · exact .inl h
  · simp only [Formatted, not_forall, not_not] at h
    obtain ⟨format, htransform, hformat⟩ := h
    exact .inr ⟨_, .badFormat htransform hformat⟩

theorem Column.checks_ofEntry : Checks ofEntry ColumnEntry.Formatted ColumnEntry.Faulty :=
  .of_alternative (fun _ => ofEntry_of_formatted) (fun _ _ => ofEntry_of_faulty)
    ColumnEntry.formatted_or_faulty

/-- What is kept of the entry of a column. -/
structure Column.Keeps (k : ColumnEntry) (c : Column) : Prop where
  source : c.source = k.source
  exposed : c.exposed = k.exposedName
  searchable : c.searchable = k.searchable
  sortable : c.sortable = k.sortable
  transform : ∃ t : Option Transform, c.transform = t.map Transform.toCellTransform ∧
    Option.Rel (fun e t => Transform.ofEntry e = .ok t) k.transform t

theorem Column.keeps_ofEntry {k : ColumnEntry} {c : Column} (h : ofEntry k = .ok c) :
    Keeps k c := by
  obtain ⟨t, ht, rfl⟩ := ofEntry_ok h
  exact ⟨rfl, rfl, rfl, rfl, t, rfl, ht⟩

/-! ## Exposed names -/

/-- The name that is reported stands behind an equal one, and none before it is repeated. -/
theorem Column.firstRepeated_eq_some_iff {seen ns : List String} {n : String} :
    firstRepeated seen ns = some n ↔
      ∃ before after, ns = before ++ n :: after ∧ before.Nodup ∧ (∀ m ∈ before, m ∉ seen) ∧
        (n ∈ before ∨ n ∈ seen) := by
  -- Induction on the names, with those passed over so far in `seen`: a name of `seen` is reported,
  -- any other one joins `seen` and is the first of the names in front of what is reported.
  induction ns generalizing seen with
  | nil => simp [firstRepeated]
  | cons m ns ih =>
    rw [firstRepeated]
    split
    · rename_i hm
      rw [List.contains_iff_mem] at hm
      constructor
      · intro h
        cases h
        exact ⟨[], ns, rfl, .nil, List.forall_mem_nil _, .inr hm⟩
      -- Nothing may stand in front of it, since the first name is seen already.
      · rintro ⟨before, after, hsplit, -, hbefore, -⟩
        cases before with
        | nil =>
          cases hsplit
          rfl
        | cons b before =>
          cases hsplit
          exact absurd hm (hbefore m List.mem_cons_self)
    · rename_i hm
      rw [List.contains_iff_mem] at hm
      rw [ih]
      constructor
      -- The names in front are not seen, `m` included, so that `m` is none of them.
      · rintro ⟨before, after, rfl, hnodup, hbefore, hn⟩
        have hnew : m ∉ before := fun hmem => hbefore m hmem List.mem_cons_self
        refine ⟨m :: before, after, rfl, List.nodup_cons.2 ⟨hnew, hnodup⟩,
          List.forall_mem_cons.2 ⟨hm, fun b hb => ?_⟩, ?_⟩
        · exact fun hseen => hbefore b hb (List.mem_cons_of_mem _ hseen)
        · rcases hn with hn | hn
          · exact .inl (List.mem_cons_of_mem _ hn)
          · rcases List.mem_cons.1 hn with rfl | hn
            · exact .inl List.mem_cons_self
            · exact .inr hn
      · rintro ⟨before, after, hsplit, hnodup, hbefore, hn⟩
        cases before with
        | nil =>
          cases hsplit
          rcases hn with hn | hn
          · cases hn
          · exact absurd hn hm
        | cons b before =>
          cases hsplit
          rw [List.nodup_cons] at hnodup
          rw [List.forall_mem_cons] at hbefore
          refine ⟨before, after, rfl, hnodup.2, fun b hb hseen => ?_, ?_⟩
          · rcases List.mem_cons.1 hseen with rfl | hseen
            · exact hnodup.1 hb
            · exact hbefore.2 b hb hseen
          · rcases hn with hn | hn
            · rcases List.mem_cons.1 hn with rfl | hn
              · exact .inr List.mem_cons_self
              · exact .inl hn
            · exact .inr (List.mem_cons_of_mem _ hn)

/-- A name is the first that stands behind an equal one. -/
def FirstRepeat (ns : List String) (n : String) : Prop :=
  ∃ before after, ns = before ++ n :: after ∧ before.Nodup ∧ n ∈ before

theorem firstRepeated_nil_iff {ns : List String} {n : String} :
    Column.firstRepeated [] ns = some n ↔ FirstRepeat ns n := by
  simp [Column.firstRepeated_eq_some_iff, FirstRepeat]

theorem Column.repeatedName_eq_some_iff {columns : List Column} {n : String} :
    repeatedName columns = some n ↔ FirstRepeat (columns.map (·.exposed)) n :=
  firstRepeated_nil_iff

theorem not_nodup_of_firstRepeat {ns : List String} {n : String} (h : FirstRepeat ns n) :
    ¬ ns.Nodup := by
  obtain ⟨before, after, rfl, -, hn⟩ := h
  intro hnodup
  exact (List.nodup_append.1 hnodup).2.2 n hn n List.mem_cons_self rfl

theorem nodup_or_firstRepeat (ns : List String) : ns.Nodup ∨ ∃ n, FirstRepeat ns n := by
  cases h : Column.firstRepeated [] ns with
  | none => exact .inl (Column.firstRepeated_eq_none h).1
  | some n => exact .inr ⟨n, firstRepeated_nil_iff.1 h⟩

theorem Column.repeatedName_eq_none_iff {columns : List Column} :
    repeatedName columns = none ↔ (columns.map (·.exposed)).Nodup := by
  refine ⟨nodup_of_repeatedName, fun hnodup => ?_⟩
  refine Option.eq_none_iff_forall_ne_some.2 fun n hn => ?_
  exact not_nodup_of_firstRepeat (repeatedName_eq_some_iff.1 hn) hnodup

/-! ## Conditions -/

/-- A string, a number or a truth value. -/
def Json.IsScalar : Json → Prop
  | .string _ => True
  | .number _ => True
  | .bool _ => True
  | _ => False

theorem Value.checks_ofJson (column : String) :
    Checks (ofJson column) Json.IsScalar fun v f => ¬ v.IsScalar ∧ f = .unusableValue column v := by
  refine .of_alternative (fun v hv => ?_) (fun v f hv => ?_) fun v => ?_
  · cases v with
    | number n => cases n <;> exact ⟨_, rfl⟩
    | string s => exact ⟨_, rfl⟩
    | bool b => exact ⟨_, rfl⟩
    | null => cases hv
    | array items => cases hv
    | object members => cases hv
  · obtain ⟨hscalar, rfl⟩ := hv
    cases v with
    | number n => exact absurd trivial hscalar
    | string s => exact absurd trivial hscalar
    | bool b => exact absurd trivial hscalar
    | null => rfl
    | array items => rfl
    | object members => rfl
  · by_cases h : v.IsScalar
    · exact .inl h
    · exact .inr ⟨_, h, rfl⟩

/-- A value that is given is a scalar, and a comparison that takes one has one. -/
structure ConditionEntry.Sound (k : ConditionEntry) : Prop where
  scalar : ∀ v, k.value = some v → v.IsScalar
  present : k.comparison.takesValue = true → k.value ≠ none

/-- A value is looked at first, even where none is needed. -/
inductive ConditionEntry.Faulty (k : ConditionEntry) : ViewFault → Prop
  | unusable {v : Json} (hvalue : k.value = some v) (h : ¬ v.IsScalar) :
      Faulty k (.unusableValue k.column v)
  | missing (htakes : k.comparison.takesValue = true) (h : k.value = none) :
      Faulty k (.missingValue k.column)

/-- What is kept of the entry of a condition. -/
structure Condition.Keeps (k : ConditionEntry) (c : Condition) : Prop where
  column : c.column = k.column
  comparison : c.comparison = k.comparison
  value : k.comparison.takesValue = true →
    ∃ v w, k.value = some v ∧ c.value = some w ∧ Value.ofJson k.column v = .ok w
  noValue : k.comparison.takesValue = false → c.value = none

theorem ConditionEntry.sound_or_faulty (k : ConditionEntry) : k.Sound ∨ ∃ f, k.Faulty f := by
  cases hvalue : k.value with
  | none =>
    by_cases htakes : k.comparison.takesValue = true
    · exact .inr ⟨_, .missing htakes hvalue⟩
    · exact .inl ⟨by simp [hvalue], fun h => absurd h htakes⟩
  | some v =>
    by_cases hscalar : v.IsScalar
    · exact .inl ⟨by simp [hvalue, hscalar], by simp [hvalue]⟩
    · exact .inr ⟨_, .unusable hvalue hscalar⟩

theorem Condition.exists_keeps {k : ConditionEntry} (h : k.Sound) :
    ∃ c, ofEntry k = .ok c ∧ Keeps k c := by
  unfold ofEntry
  cases hvalue : k.value with
  | none =>
    cases htakes : k.comparison.takesValue with
    | true => exact absurd hvalue (h.present htakes)
    | false => exact ⟨_, rfl, rfl, rfl, by simp [htakes], fun _ => rfl⟩
  | some v =>
    obtain ⟨w, hw⟩ := ((Value.checks_ofJson k.column).ok_iff v).2 (h.scalar v hvalue)
    simp only [hw]
    cases htakes : k.comparison.takesValue with
    | true => exact ⟨_, rfl, rfl, rfl, fun _ => ⟨v, w, hvalue, rfl, hw⟩, by simp [htakes]⟩
    | false => exact ⟨_, rfl, rfl, rfl, by simp [htakes], fun _ => rfl⟩

theorem Condition.ofEntry_of_faulty {k : ConditionEntry} {f : ViewFault} (h : k.Faulty f) :
    ofEntry k = .error f := by
  cases h with
  | @unusable v hvalue hscalar =>
    have hv := ((Value.checks_ofJson k.column).error_iff v _).2 ⟨hscalar, rfl⟩
    simp only [ofEntry, hvalue, hv]
    rfl
  | missing htakes hvalue =>
    simp only [ofEntry, hvalue, htakes]
    rfl

theorem Condition.checks_ofEntry : Checks ofEntry ConditionEntry.Sound ConditionEntry.Faulty :=
  .of_alternative (fun _ h => (exists_keeps h).imp fun _ hc => hc.1)
    (fun _ _ => ofEntry_of_faulty) ConditionEntry.sound_or_faulty

theorem Condition.keeps_ofEntry {k : ConditionEntry} {c : Condition} (h : ofEntry k = .ok c) :
    Keeps k c := by
  obtain ⟨c', hc', hkeeps⟩ := exists_keeps (checks_ofEntry.sound_of_ok h)
  rw [h] at hc'
  cases hc'
  exact hkeeps

/-! ## Views -/

/-- When a view passes a check, and what the check reports of it if not. -/
structure ViewCheck where
  passes : Prop
  reports : ViewFault → Prop

namespace ViewEntry

/-- The checks of a view, in their order. -/
def checks (e : ViewEntry) : List ViewCheck :=
  [⟨∃ c ∈ e.table.toList, Text.isBlank c = false,
      fun f => (∀ c ∈ e.table.toList, Text.isBlank c = true) ∧ f = .blankTable⟩,
    ⟨e.columns ≠ [], fun f => e.columns = [] ∧ f = .noColumns⟩,
    ⟨∀ k ∈ e.columns, k.Formatted, FirstFault ColumnEntry.Formatted ColumnEntry.Faulty e.columns⟩,
    ⟨(e.columns.map (·.exposedName)).Nodup,
      fun f => ∃ n, FirstRepeat (e.columns.map (·.exposedName)) n ∧ f = .repeatedName n⟩,
    ⟨∀ k ∈ e.whereResult, k.Sound,
      FirstFault ConditionEntry.Sound ConditionEntry.Faulty e.whereResult⟩,
    ⟨∀ k ∈ e.whereAll, k.Sound, FirstFault ConditionEntry.Sound ConditionEntry.Faulty e.whereAll⟩]

/-- The view passes every check. -/
def Sound (e : ViewEntry) : Prop := ∀ c ∈ e.checks, c.passes

/-- The first check that the view fails reports the fault. -/
def Faulty (e : ViewEntry) (f : ViewFault) : Prop :=
  FirstFault ViewCheck.passes ViewCheck.reports e.checks f

end ViewEntry

/-- What is kept of the entry of a view. -/
structure View.Keeps (name : String) (e : ViewEntry) (v : View) : Prop where
  name : v.name = name
  table : v.table = e.table
  columns : List.Forall₂ Column.Keeps e.columns v.columns
  result : List.Forall₂ Condition.Keeps e.whereResult v.base.result
  all : List.Forall₂ Condition.Keeps e.whereAll v.base.all

namespace View

variable {name : String} {e : ViewEntry}

theorem keeps_ofEntry {v : View} (h : ofEntry name e = .ok v) : Keeps name e v := by
  obtain ⟨columns, result, all, hcolumns, hresult, hall, -, -, -, rfl⟩ := ofEntry_ok h
  refine ⟨rfl, rfl, ?_, ?_, ?_⟩
  · exact (mapM_eq_ok_iff.1 hcolumns).imp fun _ _ => Column.keeps_ofEntry
  · exact (mapM_eq_ok_iff.1 hresult).imp fun _ _ => Condition.keeps_ofEntry
  · exact (mapM_eq_ok_iff.1 hall).imp fun _ _ => Condition.keeps_ofEntry

/-- The exposed names of columns are those of their entries. -/
theorem exposed_of_mapM {ks : List ColumnEntry} {columns : List Column}
    (h : ks.mapM Column.ofEntry = .ok columns) :
    columns.map (·.exposed) = ks.map (·.exposedName) :=
  map_eq_of_forall₂ ((mapM_eq_ok_iff.1 h).imp fun _ _ hc => (Column.keeps_ofEntry hc).exposed)

/-- The checks one after the other, and the view that passes them. -/
theorem ofEntry_eq : ofEntry name e =
    if Text.allBlank e.table then .error .blankTable
    else if e.columns.isEmpty then .error .noColumns
    else match e.columns.mapM Column.ofEntry with
      | .error f => .error f
      | .ok columns => match Column.repeatedName columns with
        | some n => .error (.repeatedName n)
        | none => match e.whereResult.mapM Condition.ofEntry with
          | .error f => .error f
          | .ok result => match e.whereAll.mapM Condition.ofEntry with
            | .error f => .error f
            | .ok all => .ok ⟨name, e.table, columns, ⟨result, all⟩⟩ := by
  simp only [ofEntry, throw, throwThe, MonadExceptOf.throw, bind, Except.bind, pure, Except.pure]
  split
  · rfl
  split
  · rfl
  cases e.columns.mapM Column.ofEntry with
  | error f => rfl
  | ok columns =>
    dsimp only
    cases Column.repeatedName columns with
    | some n => rfl
    | none =>
      cases e.whereResult.mapM Condition.ofEntry with
      | error f => rfl
      | ok result => cases e.whereAll.mapM Condition.ofEntry <;> rfl

theorem ofEntry_of_sound (h : e.Sound) : ∃ v, ofEntry name e = .ok v := by
  simp only [ViewEntry.Sound, ViewEntry.checks, List.forall_mem_cons] at h
  obtain ⟨htable, hcolumns, hformats, hnames, hresult, hall, -⟩ := h
  obtain ⟨columns, hmade⟩ := (Column.checks_ofEntry.mapM.ok_iff _).2 hformats
  obtain ⟨result, hresult⟩ := (Condition.checks_ofEntry.mapM.ok_iff _).2 hresult
  obtain ⟨all, hall⟩ := (Condition.checks_ofEntry.mapM.ok_iff _).2 hall
  rw [← exposed_of_mapM hmade, ← Column.repeatedName_eq_none_iff] at hnames
  rw [← List.isEmpty_eq_false_iff] at hcolumns
  refine ⟨⟨name, e.table, columns, ⟨result, all⟩⟩, ?_⟩
  simp [ofEntry_eq, Text.allBlank_eq_false_iff.2 htable, hcolumns, hmade, hnames, hresult, hall]

/-- The checks are made one after the other, and the first that fails ends them. -/
theorem ofEntry_of_faulty {f : ViewFault} (h : e.Faulty f) : ofEntry name e = .error f := by
  simp only [ViewEntry.Faulty, ViewEntry.checks, firstFault_cons] at h
  -- One check after the other: it is the one that fails, or it is passed and the next is looked at.
  rcases h with ⟨htable, rfl⟩ | ⟨htable, h⟩
  · simp [ofEntry_eq, Text.allBlank_eq_true_iff.2 htable]
  rcases h with ⟨hcolumns, rfl⟩ | ⟨hcolumns, h⟩
  · simp [ofEntry_eq, Text.allBlank_eq_false_iff.2 htable, hcolumns]
  rw [← List.isEmpty_eq_false_iff] at hcolumns
  rcases h with hformat | ⟨hformats, h⟩
  · have hmade := (Column.checks_ofEntry.mapM.error_iff _ _).2 hformat
    simp [ofEntry_eq, Text.allBlank_eq_false_iff.2 htable, hcolumns, hmade]
  obtain ⟨columns, hmade⟩ := (Column.checks_ofEntry.mapM.ok_iff _).2 hformats
  rw [← exposed_of_mapM hmade] at h
  rcases h with ⟨n, hname, rfl⟩ | ⟨hnames, h⟩
  · have hname := Column.repeatedName_eq_some_iff.2 hname
    simp [ofEntry_eq, Text.allBlank_eq_false_iff.2 htable, hcolumns, hmade, hname]
  have hnames := Column.repeatedName_eq_none_iff.2 hnames
  rcases h with hcondition | ⟨hresult, h⟩
  · have hresult := (Condition.checks_ofEntry.mapM.error_iff _ _).2 hcondition
    simp [ofEntry_eq, Text.allBlank_eq_false_iff.2 htable, hcolumns, hmade, hnames, hresult]
  obtain ⟨result, hresult⟩ := (Condition.checks_ofEntry.mapM.ok_iff _).2 hresult
  rcases h with hcondition | ⟨-, hnone⟩
  · have hall := (Condition.checks_ofEntry.mapM.error_iff _ _).2 hcondition
    simp [ofEntry_eq, Text.allBlank_eq_false_iff.2 htable, hcolumns, hmade, hnames, hresult, hall]
  · simp [FirstFault] at hnone

theorem sound_or_faulty (e : ViewEntry) : e.Sound ∨ ∃ f, e.Faulty f := by
  refine sound_or_firstFault ?_
  simp only [ViewEntry.checks, List.forall_mem_cons, List.not_mem_nil, false_implies, implies_true,
    and_true]
  refine ⟨?_, ?_, ?_, ?_, ?_, ?_⟩
  · cases hblank : Text.allBlank e.table with
    | true => exact .inr ⟨_, Text.allBlank_eq_true_iff.1 hblank, rfl⟩
    | false => exact .inl (Text.allBlank_eq_false_iff.1 hblank)
  · by_cases hcolumns : e.columns = []
    · exact .inr ⟨_, hcolumns, rfl⟩
    · exact .inl hcolumns
  · exact sound_or_firstFault fun k _ => k.formatted_or_faulty
  · rcases nodup_or_firstRepeat (e.columns.map (·.exposedName)) with hnodup | ⟨n, hn⟩
    · exact .inl hnodup
    · exact .inr ⟨_, n, hn, rfl⟩
  · exact sound_or_firstFault fun k _ => k.sound_or_faulty
  · exact sound_or_firstFault fun k _ => k.sound_or_faulty

/-- **A view passes its checks, or the first check that it fails reports its fault.** -/
theorem checks_ofEntry (name : String) : Checks (ofEntry name) ViewEntry.Sound ViewEntry.Faulty :=
  .of_alternative (fun _ => ofEntry_of_sound) (fun _ _ => ofEntry_of_faulty) sound_or_faulty

end View

end GridQuery
