import GridQuery.Sql.Dialect

/-!
# The schema cache

Schemas that were read from the catalog, by dialect and table. The first schema stored for a
table stays until the table is invalidated.
-/

namespace GridQuery

/-- A place in the cache. -/
structure CacheKey where
  dialect : Dialect
  table : String
deriving DecidableEq, Repr

structure Cache where
  entries : List (CacheKey × Schema)
deriving DecidableEq, Repr

namespace Cache

def empty : Cache := ⟨[]⟩

def get? (c : Cache) (k : CacheKey) : Option Schema := c.entries.lookup k

/-- Stores a schema unless there is one, and returns the one that is stored. -/
def insert (c : Cache) (k : CacheKey) (schema : Schema) : Schema × Cache :=
  match c.get? k with
  | some stored => (stored, c)
  | none => (schema, ⟨(k, schema) :: c.entries⟩)

/-- Drops what is stored for a table. -/
def invalidate (c : Cache) (table : String) : Cache :=
  ⟨c.entries.filter fun e => e.1.table ≠ table⟩

def size (c : Cache) : Nat := c.entries.length

/-! ## Laws -/

theorem get?_insert_self (c : Cache) (k : CacheKey) (schema : Schema) :
    (c.insert k schema).2.get? k = some (c.insert k schema).1 := by
  unfold insert
  split
  · assumption
  · simp [get?]

theorem get?_insert_of_ne (c : Cache) {k l : CacheKey} (h : l ≠ k) (schema : Schema) :
    (c.insert k schema).2.get? l = c.get? l := by
  unfold insert
  split
  · rfl
  · have h : (l == k) = false := by simpa using h
    simp [get?, List.lookup_cons, h]

/-- Only what is stored for the table is dropped. -/
theorem get?_invalidate (c : Cache) (table : String) (k : CacheKey) :
    (c.invalidate table).get? k = if k.table = table then none else c.get? k := by
  obtain ⟨es⟩ := c
  simp only [invalidate, get?]
  induction es with
  | nil => simp
  | cons e es ih =>
    obtain ⟨l, s⟩ := e
    by_cases hl : l.table = table
    · rw [List.filter_cons_of_neg (by simpa using hl), ih]
      split
      · rfl
      · rename_i hk
        have h : (k == l) = false := by simpa using fun e : k = l => hk (e ▸ hl)
        simp [List.lookup_cons, h]
    · rw [List.filter_cons_of_pos (by simpa using hl), List.lookup_cons, List.lookup_cons, ih]
      cases h : k == l
      · rfl
      · have e : k = l := by simpa using h
        simp [e, hl]

end Cache

end GridQuery
