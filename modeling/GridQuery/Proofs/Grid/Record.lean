import Mathlib.Data.List.Induction
import GridQuery.Grid.Column
import GridQuery.Proofs.Traversal

/-!
# Records

An object made from pairs of distinct names has exactly these names, and under each the value it
was paired with. So where the exposed names are distinct, a record has a member for each column.

Main result: `Column.exists_records`, the records of all rows.
-/

namespace GridQuery

/-! ## Members -/

namespace Members

/-- The names of the members, in their order. -/
def names (m : Members) : List String := m.map (·.1)

/-- A new name is added to those there are. -/
theorem names_insert {m : Members} {name : String} (h : name ∉ m.names) (v : Json) :
    (m.insert name v).names.Perm (name :: m.names) := by
  induction m with
  | nil => exact .refl _
  | cons p rest ih =>
    obtain ⟨n, w⟩ := p
    have hne : name ≠ n := fun heq => h (heq ▸ List.mem_cons_self)
    have hrest : name ∉ names rest := fun hmem => h (List.mem_cons_of_mem _ hmem)
    rw [insert]
    split
    · exact .refl _
    · exact ((ih hrest).cons n).trans (.swap name n _)

theorem ofList_concat (pairs : List (String × Json)) (p : String × Json) :
    ofList (pairs ++ [p]) = (ofList pairs).insert p.1 p.2 := by
  rw [ofList, List.foldl_append]
  rfl

variable {pairs : List (String × Json)}

theorem nodup_concat {p : String × Json} (h : ((pairs ++ [p]).map (·.1)).Nodup) :
    (pairs.map (·.1)).Nodup ∧ p.1 ∉ pairs.map (·.1) := by
  rw [List.map_append, List.nodup_append] at h
  exact ⟨h.1, fun hmem => h.2.2 _ hmem _ (List.mem_singleton.2 rfl) rfl⟩

/-- **An object of distinct names has exactly these.** -/
theorem names_ofList (h : (pairs.map (·.1)).Nodup) :
    (ofList pairs).names.Perm (pairs.map (·.1)) := by
  induction pairs using List.reverseRecOn with
  | nil => exact .refl _
  | append_singleton pairs p ih =>
    obtain ⟨hpairs, hp⟩ := nodup_concat h
    have hnames := ih hpairs
    have hnew : p.1 ∉ (ofList pairs).names := fun hmem => hp (hnames.mem_iff.1 hmem)
    rw [ofList_concat, List.map_append]
    exact (names_insert hnew p.2).trans
      ((hnames.cons p.1).trans (List.perm_append_singleton p.1 _).symm)

/-- **And under each of them the value of its pair.** -/
theorem get?_ofList_of_mem (h : (pairs.map (·.1)).Nodup) {p : String × Json} (hp : p ∈ pairs) :
    (ofList pairs).get? p.1 = some p.2 := by
  induction pairs using List.reverseRecOn with
  | nil => cases hp
  | append_singleton pairs last ih =>
    obtain ⟨hpairs, hlast⟩ := nodup_concat h
    rw [ofList_concat]
    rcases List.mem_append.1 hp with hp | hp
    · have hne : p.1 ≠ last.1 := fun heq => hlast (heq ▸ List.mem_map_of_mem hp)
      rw [get?_insert_of_ne _ hne, ih hpairs hp]
    · obtain rfl := List.mem_singleton.1 hp
      exact get?_insert_self _ _ _

theorem get?_ofList_of_not_mem {name : String} (h : name ∉ pairs.map (·.1)) :
    (ofList pairs).get? name = none := by
  induction pairs using List.reverseRecOn with
  | nil => rfl
  | append_singleton pairs last ih =>
    rw [List.map_append, List.mem_append, not_or] at h
    have hne : name ≠ last.1 := fun heq => h.2 (List.mem_singleton.2 heq)
    rw [ofList_concat, get?_insert_of_ne _ hne, ih h.1]

end Members

/-! ## Records of rows -/

namespace Column

variable {columns : List Column} {row : Row}

theorem firstRepeated_eq_none {seen ns : List String} (h : firstRepeated seen ns = none) :
    ns.Nodup ∧ ∀ n ∈ ns, n ∉ seen := by
  induction ns generalizing seen with
  | nil => simp
  | cons n ns ih =>
    rw [firstRepeated] at h
    split at h
    · cases h
    · rename_i hn
      obtain ⟨hnodup, hseen⟩ := ih h
      refine ⟨List.nodup_cons.2 ⟨fun hmem => hseen n hmem List.mem_cons_self, hnodup⟩, ?_⟩
      rw [List.forall_mem_cons]
      exact ⟨by simpa using hn, fun m hm hmem => hseen m hm (List.mem_cons_of_mem _ hmem)⟩

theorem nodup_of_repeatedName (h : repeatedName columns = none) :
    (columns.map (·.exposed)).Nodup :=
  (firstRepeated_eq_none h).1

/-- The value of a column as it is shown. -/
def transformed (c : Column) (v : Json) (row : Row) : Option Json :=
  match c.transform with
  | some f => f v row
  | none => some v

/-- The column's transform has a result for every value. -/
def Returns (c : Column) : Prop := ∀ v row, (c.transformed v row).isSome = true

theorem value_eq (c : Column) (row : Row) :
    c.value row = c.transformed ((row.get? c.source).getD .null) row := rfl

/-- The record has exactly the exposed names, and under each the value of its column. -/
structure IsRecord (columns : List Column) (row : Row) (rec : Record) : Prop where
  names : rec.names.Perm (columns.map (·.exposed))
  values : ∀ c ∈ columns, ∃ v, c.value row = some v ∧ rec.get? c.exposed = some v

/-- **Where names are distinct and transforms return, a row has its record.** -/
theorem exists_record (hnames : (columns.map (·.exposed)).Nodup)
    (hreturns : ∀ c ∈ columns, c.Returns) (row : Row) :
    ∃ rec, record columns row = some rec ∧ IsRecord columns row rec := by
  have hvalue : ∀ c ∈ columns, c.value row = some ((c.value row).getD .null) := by
    intro c hc
    obtain ⟨v, hv⟩ := Option.isSome_iff_exists.1 (hreturns c hc _ row)
    rw [value_eq, hv]
    rfl
  let pairs := columns.map fun c => (c.exposed, (c.value row).getD .null)
  have hpairs : pairs.map (·.1) = columns.map (·.exposed) := List.map_map
  have hrecord : record columns row = some (Members.ofList pairs) := by
    rw [record, mapM_of_pure fun c hc => congrArg (Option.map (c.exposed, ·)) (hvalue c hc)]
    rfl
  refine ⟨_, hrecord, hpairs ▸ Members.names_ofList (hpairs ▸ hnames), fun c hc => ?_⟩
  have hmem : (c.exposed, (c.value row).getD .null) ∈ pairs := List.mem_map_of_mem hc
  exact ⟨_, hvalue c hc, Members.get?_ofList_of_mem (hpairs ▸ hnames) hmem⟩

/-- **All rows have their records, in their order.** -/
theorem exists_records (hnames : (columns.map (·.exposed)).Nodup)
    (hreturns : ∀ c ∈ columns, c.Returns) (rows : List Row) :
    ∃ data, records columns rows = some data ∧
      List.Forall₂ (IsRecord columns) rows data :=
  exists_mapM_forall₂ fun row _ => exists_record hnames hreturns row

end Column

end GridQuery
