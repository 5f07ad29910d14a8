import GridQuery.Proofs.Plan.Statement
import Mathlib.Data.List.DropRight

/-!
# The sort items of a page

What a page is sorted by is read off its text: what stands between ORDER BY and LIMIT, cut at the
commas. The words and the comma count only outside quoted names, so no name of a table or a column
can add an item or end the list.

Main result: `Plan.sortItemsOf_data`, the items that are read are those that were written.
-/

namespace GridQuery

namespace Sql

/-! ## The reader -/

/-- What follows the first such word; nothing without it. -/
def afterWord (w : String) : List (Token String) → Option (List (Token String))
  | [] => none
  | t :: ts => if t = .word w then some ts else afterWord w ts

/-- What stands between ORDER BY and LIMIT; nothing without an ORDER BY. -/
def orderByOf (ts : List (Token String)) : Option (List (Token String)) :=
  ((afterWord "ORDER" ts).bind (afterWord "BY")).map (·.takeWhile (· ≠ .word "LIMIT"))

/-- Without the blanks at both ends. -/
def stripped (ts : List (Token String)) : List (Token String) :=
  (ts.dropWhile (· = .sign ' ')).rdropWhile (· = .sign ' ')

/-- What stands between commas. -/
def parts (ts : List (Token String)) : List (List (Token String)) :=
  (ts.splitOnP (· = .sign ',')).map stripped

/-- The sort items of a SQL text: `none` if it cannot be read, `some none` if there is no ORDER
BY. -/
def sortItemsOf (d : Dialect) (sql : String) : Option (Option (List String)) :=
  (read d sql).map fun ts =>
    (orderByOf ts).map fun ts => (parts ts).map fun ts => String.ofList (write d ts)

theorem afterWord_append {w : String} {ts : List (Token String)} (h : .word w ∉ ts)
    (us : List (Token String)) : afterWord w (ts ++ .word w :: us) = some us := by
  induction ts with
  | nil => simp [afterWord]
  | cons t ts ih =>
    rw [List.mem_cons, not_or] at h
    rw [List.cons_append, afterWord, if_neg (Ne.symm h.1), ih h.2]

theorem afterWord_eq_none {w : String} {ts : List (Token String)} (h : .word w ∉ ts) :
    afterWord w ts = none := by
  induction ts with
  | nil => rfl
  | cons t ts ih =>
    rw [List.mem_cons, not_or] at h
    rw [afterWord, if_neg (Ne.symm h.1), ih h.2]

theorem takeWhile_append_word {w : String} {ts : List (Token String)} (h : .word w ∉ ts)
    (us : List (Token String)) :
    (ts ++ .word w :: us).takeWhile (fun t => t ≠ .word w) = ts := by
  rw [List.takeWhile_append_of_pos fun t ht => by
    rw [decide_eq_true_eq]
    rintro rfl
    exact h ht]
  simp

/-- Numbering adds no words. -/
theorem word_mem_number {d : Dialect} {k : Nat} {ph : Phrase} {w : String} :
    .word w ∈ number d k ph ↔ .word w ∈ ph := by
  have hforget : ∀ t : Token String, t.forget = .word w ↔ t = .word w := by
    intro t
    cases t <;> simp [Token.forget]
  conv_rhs => rw [← map_forget_number d k ph]
  simp [List.mem_map, hforget]

end Sql

namespace Plan

open Sql

variable {d : Dialect}

/-! ## One list of items -/

/-- The tokens of a sort item. -/
def sortTokens (table : String) (k : String × Direction) : List (Token String) :=
  [.name table, .sign '.', .name k.1, .sign ' ', .word k.2.keyword]

/-- The tokens of sort items, with a comma between any two. -/
def sortList (table : String) (keys : List (String × Direction)) : List (Token String) :=
  List.intercalate [.sign ',', .sign ' '] (keys.map (sortTokens table))

theorem sortList_cons_cons (table : String) (k k' : String × Direction)
    (keys : List (String × Direction)) : sortList table (k :: k' :: keys) =
      sortTokens table k ++ .sign ',' :: .sign ' ' :: sortList table (k' :: keys) := by
  rw [sortList, List.map_cons, List.map_cons, List.intercalate_cons_cons, List.append_assoc]
  rfl

theorem number_sortPhrases (d : Dialect) (j : Nat) (table : String)
    (keys : List (String × Direction)) :
    number d j (comma.intercalate (keys.map (sortPhrase table))) = sortList table keys := by
  induction keys with
  | nil => rfl
  | cons k keys ih =>
    cases keys with
    | nil => rfl
    | cons k' keys =>
      have hplaces : places (sortPhrase table k ++ comma) = 0 := rfl
      rw [List.map_cons, List.map_cons, List.intercalate_cons_cons, number_append, hplaces,
        Nat.add_zero, ← List.map_cons, ih, sortList_cons_cons]
      rfl

theorem limit_not_mem_sortList (table : String) (keys : List (String × Direction)) :
    .word "LIMIT" ∉ sortList table keys := by
  intro h
  rcases mem_intercalate h with h | ⟨ts, hts, h⟩
  · simp at h
  · obtain ⟨⟨n, dir⟩, -, rfl⟩ := List.mem_map.1 hts
    cases dir <;> simp [sortTokens, Direction.keyword] at h

theorem write_sortTokens (d : Dialect) (table : String) (k : String × Direction) :
    String.ofList (write d (sortTokens table k)) = Order.item d table k := by
  have hitem : (Order.item d table k).toList = write d (sortTokens table k) :=
    (spells_item d table k).chars 0
  rw [← hitem, String.ofList_toList]

/-- The items are what stands between the commas of their list. -/
theorem parts_sortList (table : String) (k : String × Direction)
    (keys : List (String × Direction)) :
    parts (.sign ' ' :: sortList table (k :: keys) ++ [.sign ' ']) =
      (k :: keys).map (sortTokens table) := by
  -- Induction on the keys: the first comma is the one behind the first key, which holds none.
  induction keys generalizing k with
  | nil =>
    have hbare : ∀ t ∈ Token.sign ' ' :: sortTokens table k ++ [.sign ' '],
        decide (t = .sign ',') = false := by
      simp [sortTokens]
    have hstrip : stripped (.sign ' ' :: sortTokens table k ++ [.sign ' ']) =
        sortTokens table k := by
      simp [stripped, sortTokens, List.rdropWhile]
    rw [sortList, List.map_singleton, List.intercalate_singleton, parts,
      List.splitOnP_eq_singleton hbare, List.map_singleton, hstrip]
  | cons k' keys ih =>
    have hbare : ∀ t ∈ Token.sign ' ' :: sortTokens table k, decide (t = .sign ',') = false := by
      simp [sortTokens]
    have hstrip : stripped (.sign ' ' :: sortTokens table k) = sortTokens table k := by
      simp [stripped, sortTokens, List.rdropWhile]
    have hcut : Token.sign ' ' :: sortList table (k :: k' :: keys) ++ [.sign ' '] =
        (.sign ' ' :: sortTokens table k) ++
          .sign ',' :: (.sign ' ' :: sortList table (k' :: keys) ++ [.sign ' ']) := by
      rw [sortList_cons_cons]
      simp
    rw [hcut, parts, List.splitOnP_append_cons_of_forall_mem hbare _ (by simp), List.map_cons,
      hstrip, ← parts, ih]
    rfl

/-! ## The page -/

/-- A page up to its ORDER BY. -/
def selection (d : Dialect) (table : String) (selected : List SelectedColumn) (w : Option Phrase) :
    Phrase :=
  ([.word "SELECT", .sign ' '] : Phrase) ++ comma.intercalate (selected.map (selectPhrase d)) ++
    (between "FROM" : Phrase) ++ ([.name table] : Phrase) ++ whereClause w

/-- The words before an ORDER BY. -/
def selectionWords : List String :=
  ["SELECT", "CAST", "AS", "CHAR", "text", "FROM", "WHERE"] ++ conditionWords

theorem over_selection (d : Dialect) (table : String) (selected : List SelectedColumn)
    {w : Option Phrase} (h : ∀ ph ∈ w, Over conditionWords ph) :
    Over selectionWords (selection d table selected w) := by
  have hselected : Over selectionWords (comma.intercalate (selected.map (selectPhrase d))) := by
    intro x hx
    rcases mem_intercalate hx with hx | ⟨ph, hph, hx⟩
    · simp [comma] at hx
    · obtain ⟨c, -, rfl⟩ := List.mem_map.1 hph
      cases d <;> simp only [selectPhrase, asTextPhrase, between, List.mem_append, List.mem_cons,
        List.not_mem_nil, reduceCtorEq, Token.word.injEq, false_or, or_false] at hx <;>
        simp only [selectionWords, List.mem_append, List.mem_cons] <;> tauto
  have hwhere : Over selectionWords (whereClause w) := by
    intro x hx
    cases w with
    | none => cases hx
    | some ph =>
      simp only [whereClause, List.mem_append, List.mem_cons, List.not_mem_nil, reduceCtorEq,
        false_or, or_false, Token.word.injEq] at hx
      rcases hx with rfl | hx
      · decide
      · exact List.mem_append_right _ (h ph rfl x hx)
  intro x hx
  simp only [selection, between, List.mem_append, List.mem_cons, List.not_mem_nil, reduceCtorEq,
    false_or, or_false, Token.word.injEq] at hx
  -- The tokens of the selection, one kind after the other: keyword, columns, keyword, WHERE.
  rcases hx with ((rfl | hx) | rfl) | hx
  · decide
  · exact hselected x hx
  · decide
  · exact hwhere x hx

/-- A page behind its ORDER BY. -/
def pageClause : Phrase := between "LIMIT" ++ .mark () :: between "OFFSET" ++ [.mark ()]

theorem dataPhrase_eq (d : Dialect) (table : String) (selected : List SelectedColumn)
    (w : Option Phrase) (keys : List (String × Direction)) :
    dataPhrase d table selected w keys =
      selection d table selected w ++ (orderClause table keys ++ pageClause) := by
  simp [dataPhrase, selection, pageClause]

theorem orderByOf_unsorted {table : String} {selected : List SelectedColumn} {w : Option Phrase}
    (h : ∀ ph ∈ w, Over conditionWords ph) :
    orderByOf (number d 0 (dataPhrase d table selected w [])) = none := by
  have hover := over_selection d table selected h
  have hword : Token.word "ORDER" ∉ number d 0 (dataPhrase d table selected w []) := by
    rw [word_mem_number, dataPhrase_eq, List.mem_append, not_or]
    refine ⟨fun hmem => absurd (hover _ hmem) (by decide), ?_⟩
    simp [orderClause, pageClause, between]
  rw [orderByOf, afterWord_eq_none hword]
  rfl

theorem orderByOf_sorted {table : String} {selected : List SelectedColumn} {w : Option Phrase}
    (h : ∀ ph ∈ w, Over conditionWords ph) (k : String × Direction)
    (keys : List (String × Direction)) :
    orderByOf (number d 0 (dataPhrase d table selected w (k :: keys))) =
      some (.sign ' ' :: sortList table (k :: keys) ++ [.sign ' ']) := by
  have hover := over_selection d table selected h
  have hword : Token.word "ORDER" ∉ number d 0 (selection d table selected w ++ [.sign ' ']) := by
    rw [word_mem_number, List.mem_append, not_or]
    exact ⟨fun hmem => absurd (hover _ hmem) (by decide), by simp⟩
  have hcut : dataPhrase d table selected w (k :: keys) =
      (selection d table selected w ++ [.sign ' ']) ++ .word "ORDER" :: .sign ' ' :: .word "BY" ::
        .sign ' ' :: (comma.intercalate ((k :: keys).map (sortPhrase table)) ++ pageClause) := by
    rw [dataPhrase_eq, orderClause, if_neg (List.cons_ne_nil _ _)]
    simp
  have hpage : ∀ j, number d j pageClause = .sign ' ' :: .word "LIMIT" ::
      number d j (.sign ' ' :: .mark () :: between "OFFSET" ++ [.mark ()]) := fun _ => rfl
  have hclose : ∀ rest, Token.sign ' ' :: (sortList table (k :: keys) ++ .sign ' ' ::
      .word "LIMIT" :: rest) =
        (.sign ' ' :: sortList table (k :: keys) ++ [.sign ' ']) ++ .word "LIMIT" :: rest := by
    simp
  have hlimit : .word "LIMIT" ∉ Token.sign ' ' :: sortList table (k :: keys) ++ [.sign ' '] := by
    simp [limit_not_mem_sortList]
  -- The clause is cut in front of its keyword, read up to the LIMIT, and renumbered on the way.
  rw [hcut, number_append]
  simp only [number]
  rw [orderByOf, afterWord_append hword, Option.bind_some, number_append, number_sortPhrases, hpage]
  simp only [afterWord, reduceCtorEq, if_false, if_true, Option.map_some]
  rw [hclose, takeWhile_append_word hlimit]

/-- **The sort items of a page are read as they were written,** and without any there is no ORDER
BY. -/
theorem sortItemsOf_data {r : Request} {schema : Schema} {p : Plan}
    (h : ofRequest d r schema = .ok p) :
    sortItemsOf d p.data.sql =
      some (if Order.resolved r.columns schema r.order = [] then none
        else some (Order.items d r.table r.columns schema r.order)) := by
  obtain ⟨rs, as, hrs, has, rfl⟩ := ofRequest_ok h
  have hreads := reads_data r.table (select r.columns schema) (reads_found schema hrs has)
    (Order.resolved r.columns schema r.order) r.page
  have hread := hreads.read (legible_data _ _ (legible_found d r schema) _)
  show sortItemsOf d (dataStatement d _ _ _ ((Order.resolved r.columns schema r.order).map
    (Order.item d r.table)) _).sql = some (if _ then none else
      some ((Order.resolved r.columns schema r.order).map (Order.item d r.table)))
  rw [sortItemsOf, hread, Option.map_some]
  cases hkeys : Order.resolved r.columns schema r.order with
  | nil => rw [orderByOf_unsorted (over_found d r schema), if_pos rfl, Option.map_none]
  | cons k keys =>
    rw [orderByOf_sorted (over_found d r schema), if_neg (List.cons_ne_nil _ _), Option.map_some,
      parts_sortList, List.map_map]
    simp only [Function.comp_def, write_sortTokens]

end Plan

end GridQuery
