import GridQuery.Proofs.Plan.Assembly
import GridQuery.Proofs.Plan.SortItems
import GridQuery.Proofs.Widget.Reports

/-!
# What becomes of an order item

An order item of a body is looked at twice: for the column of the body that it points at, which must
have a name and be open to sorting, and for the column of the view with this name, which must be
sortable and in the table. An item that passes both is one sort item of the page, in its place
among the others; of any other the first check that it fails is reported.

Main result: `Body.sorted_by_order`.
-/

namespace GridQuery

/-! ## Sort keys -/

/-- The column and the direction that a key sorts by, if it can be sorted by. -/
def SortKey.target? (columns : List Column) (schema : Schema) (key : SortKey) :
    Option (Column × Direction) :=
  (Column.find? columns key.exposed).bind fun k =>
    if k.sortable && (schema.find? k.source).isSome then some (k, key.direction) else none

theorem SortKey.resolve_toOption (columns : List Column) (schema : Schema) (key : SortKey) :
    (key.resolve columns schema).toOption =
      (key.target? columns schema).map fun k => (k.1.source, k.2) := by
  unfold resolve target?
  cases Column.find? columns key.exposed with
  | none => rfl
  | some k =>
    cases hsortable : k.sortable with
    | false => simp [hsortable, Except.toOption]
    | true => cases hlive : schema.find? k.source <;> simp [hsortable, hlive, Except.toOption]

theorem Schema.isSome_find? {schema : Schema} {source : String} :
    (schema.find? source).isSome = true ↔ ∃ live ∈ schema, live.source = source := by
  simp [find?, List.find?_isSome]

namespace Widget

/-! ## Order items -/

/-- The direction that an order item names; ascending if it names none. -/
def BodyOrder.Directs (o : BodyOrder) (dir : Direction) : Prop :=
  match o.direction with
  | none => dir = .asc
  | some s => Text.asciiLower (Text.trim s) = dir.key

theorem ofText?_eq_some {s : String} {dir : Direction} :
    Direction.ofText? s = some dir ↔ Text.asciiLower (Text.trim s) = dir.key := by
  unfold Direction.ofText?
  split
  · rename_i h
    rw [h]
    cases dir <;> simp [Direction.key]
  · rename_i h
    rw [h]
    cases dir <;> simp [Direction.key]
  · rename_i hasc hdesc
    cases dir with
    | asc => simpa [Direction.key] using hasc
    | desc => simpa [Direction.key] using hdesc

theorem BodyOrder.directs_iff {o : BodyOrder} {dir : Direction} :
    o.Directs dir ↔ Direction.ofText? (o.direction.getD "asc") = some dir := by
  rw [ofText?_eq_some]
  unfold Directs
  cases o.direction with
  | none =>
    have hasc : Text.asciiLower (Text.trim "asc") = "asc" := by decide
    rw [Option.getD_none, hasc]
    cases dir <;> simp [Direction.key]
  | some s => rfl

theorem BodyColumn.open_iff {c : BodyColumn} :
    c.orderable.getD true = true ↔ c.orderable ≠ some false := by
  cases c.orderable with
  | none => simp
  | some allowed => cases allowed <;> simp

namespace Body

/-- An order item points at a column of the body, which has a name. -/
structure PointsAt (b : Body) (o : BodyOrder) (c : BodyColumn) (n : String) : Prop where
  placed : ∃ i : Nat, o.column = some (i : Int) ∧ b.columns[i]? = some c
  named : c.exposed? = some n

/-- An order item asks for a sort key, and the client does not forbid it. -/
def AsksFor (b : Body) (o : BodyOrder) (key : SortKey) : Prop :=
  ∃ c, b.PointsAt o c key.exposed ∧ c.orderable ≠ some false ∧ o.Directs key.direction

/-- The page is sorted by the column in the direction for this order item. -/
structure SortsBy (b : Body) (columns : List Column) (schema : Schema) (o : BodyOrder)
    (k : Column × Direction) : Prop where
  asks : b.AsksFor o ⟨k.1.exposed, k.2⟩
  mem : k.1 ∈ columns
  sortable : k.1.sortable = true
  present : ∃ live ∈ schema, live.source = k.1.source

/-- The first check that an order item fails, and what is reported of it. -/
inductive Refuses (b : Body) (columns : List Column) (schema : Schema) (o : BodyOrder) :
    Diagnostic → Prop
  | unplaced (h : ∀ c n, ¬ b.PointsAt o c n) :
      Refuses b columns schema o ⟨"#" ++ toString (o.column.getD (-1)), .unknownColumn⟩
  | shut {c : BodyColumn} {n : String} (hpoints : b.PointsAt o c n)
      (h : c.orderable = some false) : Refuses b columns schema o ⟨n, .notSortable⟩
  | astray {c : BodyColumn} {n s : String} (hpoints : b.PointsAt o c n)
      (hopen : c.orderable ≠ some false) (hs : o.direction = some s) (h : ∀ dir, ¬ o.Directs dir) :
      Refuses b columns schema o ⟨n, .invalidDirection s⟩
  | unknown {key : SortKey} (hasks : b.AsksFor o key) (h : ∀ k ∈ columns, k.exposed ≠ key.exposed) :
      Refuses b columns schema o ⟨key.exposed, .unknownColumn⟩
  | unsortable {key : SortKey} {k : Column} (hasks : b.AsksFor o key) (hk : k ∈ columns)
      (hname : k.exposed = key.exposed) (h : k.sortable = false) :
      Refuses b columns schema o ⟨k.exposed, .notSortable⟩
  | missing {key : SortKey} {k : Column} (hasks : b.AsksFor o key) (hk : k ∈ columns)
      (hname : k.exposed = key.exposed) (hsortable : k.sortable = true)
      (h : ∀ live ∈ schema, live.source ≠ k.source) :
      Refuses b columns schema o ⟨k.source, .missingSchemaColumn⟩

variable {b : Body} {o : BodyOrder} {key : SortKey} {columns : List Column} {schema : Schema}
  {g : Diagnostic}

/-- The column that an order item points at, with its name. -/
theorem pointsAt_iff {c : BodyColumn} {n : String} :
    b.PointsAt o c n ↔
      ((b.columnAt? (o.column.getD (-1))).bind fun c => c.exposed?.map fun n => (c, n)) =
        some (c, n) := by
  -- An item without a place is read as pointing before the first column, where there is none.
  have hplace : b.columnAt? (o.column.getD (-1)) = some c ↔
      ∃ i : Nat, o.column = some (i : Int) ∧ b.columns[i]? = some c := by
    unfold columnAt?
    cases o.column with
    | none => simp
    | some i =>
      rw [Option.getD_some]
      constructor
      · intro h
        split at h
        · rename_i hi
          exact ⟨i.toNat, by rw [Int.toNat_of_nonneg hi], h⟩
        · cases h
      · rintro ⟨j, hj, h⟩
        obtain rfl := Option.some.inj hj
        rw [if_pos (Int.natCast_nonneg j), Int.toNat_natCast, h]
  constructor
  · rintro ⟨hc, hn⟩
    rw [hplace.2 hc, Option.bind_some, hn, Option.map_some]
  · intro h
    obtain ⟨c', hc, h⟩ := Option.bind_eq_some_iff.1 h
    obtain ⟨n', hn, h⟩ := Option.map_eq_some_iff.1 h
    cases h
    exact ⟨hplace.1 hc, hn⟩

theorem sortKey_ok_iff : b.sortKey o = .ok key ↔ b.AsksFor o key := by
  unfold sortKey
  dsimp only
  constructor
  · intro h
    split at h
    · cases h
    · rename_i c n hpoints
      split at h
      · cases h
      · rename_i hopen
        split at h
        · rename_i dir hdir
          cases h
          exact ⟨c, pointsAt_iff.2 hpoints, BodyColumn.open_iff.1 (by simpa using hopen),
            BodyOrder.directs_iff.2 hdir⟩
        · cases h
  · rintro ⟨c, hpoints, hopen, hdir⟩
    simp only [pointsAt_iff.1 hpoints, BodyColumn.open_iff.2 hopen, BodyOrder.directs_iff.1 hdir,
      Bool.not_true, Bool.false_eq_true, if_false]

/-- An order item without a sort key fails a check of the body. -/
theorem refuses_of_sortKey (h : b.sortKey o = .error g) : b.Refuses columns schema o g := by
  unfold sortKey at h
  dsimp only at h
  split at h
  · rename_i hnone
    cases h
    refine .unplaced fun c n hpoints => ?_
    rw [pointsAt_iff.1 hpoints] at hnone
    cases hnone
  · rename_i c n hpoints
    split at h
    · rename_i hshut
      cases h
      rw [Bool.not_eq_true', ← Bool.not_eq_true, BodyColumn.open_iff, not_not] at hshut
      exact .shut (pointsAt_iff.2 hpoints) hshut
    · rename_i hopen
      split at h
      · cases h
      · rename_i hdir
        cases h
        -- No word would mean ascending, so there is one, and it is neither of the two.
        have hastray : ∀ dir, ¬ o.Directs dir := by
          intro dir hdirects
          rw [BodyOrder.directs_iff, hdir] at hdirects
          cases hdirects
        obtain ⟨s, hs⟩ : ∃ s, o.direction = some s := by
          refine Option.ne_none_iff_exists'.1 fun hnone => hastray .asc ?_
          rw [BodyOrder.Directs, hnone]
        rw [hs, Option.getD_some]
        exact .astray (pointsAt_iff.2 hpoints) (BodyColumn.open_iff.1 (by simpa using hopen)) hs
          hastray

/-- A sort key that cannot be sorted by fails a check of the view. -/
theorem refuses_of_resolve (hasks : b.AsksFor o key) (h : key.resolve columns schema = .error g) :
    b.Refuses columns schema o g := by
  unfold SortKey.resolve at h
  -- The checks of the planner in their order: the name, the permission to sort, the schema.
  cases hfind : Column.find? columns key.exposed with
  | none =>
    simp only [hfind, Except.error.injEq] at h
    subst h
    refine .unknown hasks fun k hk => ?_
    simpa using List.find?_eq_none.1 hfind k hk
  | some k =>
    have hk : k ∈ columns := List.mem_of_find?_eq_some hfind
    have hname : k.exposed = key.exposed := Column.exposed_of_find? hfind
    simp only [hfind] at h
    split at h
    · rename_i hsortable
      cases h
      exact .unsortable hasks hk hname (by simpa using hsortable)
    · rename_i hsortable
      split at h
      · rename_i hmissing
        cases h
        refine .missing hasks hk hname (by simpa using hsortable) fun live hlive hsource => ?_
        have hpresent := Schema.isSome_find?.2 ⟨live, hlive, hsource⟩
        rw [Option.isNone_iff_eq_none.1 hmissing] at hpresent
        cases hpresent
      · cases h

/-- The column and the direction that the page is sorted by for an order item. -/
def target? (b : Body) (columns : List Column) (schema : Schema) (o : BodyOrder) :
    Option (Column × Direction) :=
  (b.sortKey o).toOption.bind (·.target? columns schema)

theorem target?_iff (hnames : (columns.map (·.exposed)).Nodup) {k : Column × Direction} :
    b.target? columns schema o = some k ↔ b.SortsBy columns schema o k := by
  unfold target? SortKey.target?
  constructor
  · intro h
    obtain ⟨key, hkey, h⟩ := Option.bind_eq_some_iff.1 h
    obtain ⟨c, hfind, h⟩ := Option.bind_eq_some_iff.1 h
    split at h
    · rename_i hgood
      rw [Bool.and_eq_true, Schema.isSome_find?] at hgood
      cases h
      have hasks : b.AsksFor o key := by
        rw [← sortKey_ok_iff]
        cases hsort : b.sortKey o <;> simp [hsort, Except.toOption] at hkey ⊢
        exact hkey
      have hname : c.exposed = key.exposed := Column.exposed_of_find? hfind
      refine ⟨?_, List.mem_of_find?_eq_some hfind, hgood.1, hgood.2⟩
      rw [hname]
      exact hasks
    · cases h
  · rintro ⟨hasks, hk, hsortable, hpresent⟩
    rw [sortKey_ok_iff.2 hasks]
    simp [Except.toOption, Column.find?_of_mem hnames hk, hsortable,
      Schema.isSome_find?.2 hpresent]

theorem resolved_eq (b : Body) (columns : List Column) (schema : Schema) :
    Order.resolved columns schema b.sortKeys =
      (b.order.filterMap (b.target? columns schema)).map fun k => (k.1.source, k.2) := by
  rw [Order.resolved, sortKeys, List.filterMap_filterMap, List.map_filterMap]
  refine List.filterMap_congr fun o _ => ?_
  unfold target?
  cases b.sortKey o with
  | error g => rfl
  | ok key => exact key.resolve_toOption columns schema

section Page

variable {d : Dialect} {v : View} {m : Nat} {p : Plan}

/-- The sort items of a page are those of the order items that the page is sorted by. -/
theorem sortItemsOf_request (h : Plan.ofRequest d (b.request v m) schema = .ok p) :
    Sql.sortItemsOf d p.data.sql = some
      (if b.order.filterMap (b.target? v.columns schema) = [] then none
        else some ((b.order.filterMap (b.target? v.columns schema)).map fun k =>
          d.escape v.table ++ "." ++ d.escape k.1.source ++ " " ++ k.2.keyword)) := by
  have hread := Plan.sortItemsOf_data h
  have hresolved := resolved_eq b v.columns schema
  rw [hread, Order.items]
  show some (if Order.resolved v.columns schema b.sortKeys = [] then none else
    some ((Order.resolved v.columns schema b.sortKeys).map (Order.item d v.table))) = _
  rw [hresolved]
  cases b.order.filterMap (b.target? v.columns schema) with
  | nil => rfl
  | cons k keys =>
    rw [if_neg (by simp), if_neg (List.cons_ne_nil _ _), List.map_map]
    rfl

/-- An order item that the page is not sorted by is refused when the body is read or when the plan
is made. -/
theorem refuses_of_not_sortsBy (hnames : (v.columns.map (·.exposed)).Nodup)
    (h : Plan.ofRequest d (b.request v m) schema = .ok p) (ho : o ∈ b.order)
    (hnone : ∀ k, ¬ b.SortsBy v.columns schema o k) :
    ∃ g, b.Refuses v.columns schema o g ∧
      (g ∈ b.findings ∨ g ∈ Plan.findings (b.request v m) schema) := by
  cases hkey : b.sortKey o with
  | error g => exact ⟨g, refuses_of_sortKey hkey, .inl (mem_findings.2 ⟨o, ho, hkey⟩)⟩
  | ok key =>
    have hasks : b.AsksFor o key := sortKey_ok_iff.1 hkey
    cases hresolve : key.resolve v.columns schema with
    | error g =>
      refine ⟨g, refuses_of_resolve hasks hresolve, .inr ?_⟩
      have hselect := Plan.isEmpty_select h
      have hmem : key ∈ b.sortKeys := List.mem_filterMap.2 ⟨o, ho, by rw [hkey]; rfl⟩
      have horder : g ∈ Order.findings v.columns schema b.sortKeys :=
        Order.mem_findings.2 ⟨key, hmem, hresolve⟩
      rw [Plan.findings, hselect]
      exact List.mem_append_right _ (List.mem_append_right _ horder)
    | ok k =>
      -- A key that can be sorted by is a sort item, and there is none.
      exfalso
      have htarget := key.resolve_toOption v.columns schema
      rw [hresolve] at htarget
      obtain ⟨k', hk', -⟩ := Option.map_eq_some_iff.1 htarget.symm
      refine hnone k' ((target?_iff hnames).1 ?_)
      rw [target?, hkey]
      exact hk'

end Page

/-- **Each order item is the sort item of one column, in the order of the body, or what is wrong
with it is reported.** -/
theorem sorted_by_order {d : Dialect} {v : View} {m : Nat} {p : Plan}
    (hnames : (v.columns.map (·.exposed)).Nodup)
    (h : Plan.ofRequest d (b.request v m) schema = .ok p) :
    ∃ keys, Sifted (b.SortsBy v.columns schema) b.order keys ∧
      Sql.sortItemsOf d p.data.sql = some (if keys = [] then none else some (keys.map fun k =>
        d.escape v.table ++ "." ++ d.escape k.1.source ++ " " ++ k.2.keyword)) ∧
      (Sql.sortItemsOf d p.data.sql = some none ↔
        ∀ o ∈ b.order, ∀ k, ¬ b.SortsBy v.columns schema o k) ∧
      ∀ o ∈ b.order, (∀ k, ¬ b.SortsBy v.columns schema o k) →
        ∃ g, b.Refuses v.columns schema o g ∧
          g ∈ ((Diagnostics.collect b.findings).extend
            (Diagnostics.collect (Plan.findings (b.request v m) schema))).entries := by
  have hsifted : Sifted (b.SortsBy v.columns schema) b.order
      (b.order.filterMap (b.target? v.columns schema)) :=
    .of_filterMap fun o _ k => target?_iff hnames
  refine ⟨_, hsifted, sortItemsOf_request h, ?_, fun o ho hnone => ?_⟩
  · rw [← hsifted.eq_nil_iff, sortItemsOf_request h]
    split
    · rename_i hempty
      simp [hempty]
    · rename_i hfilled
      simp [hfilled]
  -- An item without a sort key was refused by the body or by the planner; both are collected.
  · obtain ⟨g, hrefuses, hg⟩ := refuses_of_not_sortsBy hnames h ho hnone
    refine ⟨g, hrefuses, ?_⟩
    rw [Diagnostics.extend, List.mem_append, Diagnostics.mem_collect, Diagnostics.mem_collect]
    exact hg

/-! ## A body with order items of every kind -/

/-- A column that the client names. -/
def named (data : String) : BodyColumn := ⟨some data, none, none, none, .empty⟩

def jumbledView : View where
  name := "v"
  table := "t`"
  columns := [⟨"a`", "A", true, true, none⟩, ⟨"b", "B", true, true, none⟩,
    ⟨"c", "C", false, true, none⟩, ⟨"gone", "G", true, true, none⟩]
  base := .none

def jumbledSchema : Schema := [⟨"a`", "int", .integer⟩, ⟨"b", "text", .text⟩, ⟨"c", "text", .text⟩]

def jumbled : Body where
  draw := .null
  start := none
  length := none
  search := .empty
  columns := [named "A", ⟨some "", some "B", none, some true, .empty⟩, named "C", named "G",
    named "X", ⟨none, none, none, none, .empty⟩, ⟨some "A", none, none, some false, .empty⟩]
  order := [⟨some 1, some " DESC "⟩, ⟨some 7, none⟩, ⟨some (-1), none⟩, ⟨none, none⟩,
    ⟨some 5, none⟩, ⟨some 6, none⟩, ⟨some 0, some "up"⟩, ⟨some 4, none⟩, ⟨some 2, none⟩,
    ⟨some 3, none⟩, ⟨some 0, none⟩]

/-- The two good items are sorted by in their order, and each other one is refused. -/
theorem sorted_by_order_jumbled :
    ∃ p keys, Plan.ofRequest .mysql (jumbled.request jumbledView 10) jumbledSchema = .ok p ∧
      Sifted (jumbled.SortsBy jumbledView.columns jumbledSchema) jumbled.order keys ∧
      Sql.sortItemsOf .mysql p.data.sql = some (some ["`t```.`b` DESC", "`t```.`a``` ASC"]) ∧
      ∀ o ∈ jumbled.order, (∀ k, ¬ jumbled.SortsBy jumbledView.columns jumbledSchema o k) →
        ∃ g, jumbled.Refuses jumbledView.columns jumbledSchema o g := by
  have hplan : ∃ p, Plan.ofRequest .mysql (jumbled.request jumbledView 10) jumbledSchema = .ok p ∧
      Sql.sortItemsOf .mysql p.data.sql = some (some ["`t```.`b` DESC", "`t```.`a``` ASC"]) :=
    ⟨_, rfl, by decide +kernel⟩
  obtain ⟨p, hp, hitems⟩ := hplan
  obtain ⟨keys, hkeys, -, -, hrefused⟩ := sorted_by_order (by decide) hp
  refine ⟨p, keys, hp, hkeys, hitems, fun o ho hnone => ?_⟩
  obtain ⟨g, hg, -⟩ := hrefused o ho hnone
  exact ⟨g, hg⟩

end Body

end Widget

end GridQuery
