import GridQuery.Proofs.Json.Literal
import GridQuery.Proofs.Plan.Outline
import GridQuery.Proofs.View.Loading

/-!
# Integers that are bound

A statement binds integers of sixty-four bits with a sign. A caller hands over integers as values of
conditions, with a sign or without, or written in a document of views, and as the offset and the
limit of the page. What is bound for each is the integer itself if it has a sign and sixty-four
bits, and the nearest one that has otherwise.

Main result: `Plan.binds_integers`.
-/

namespace GridQuery

/-! ## Integers -/

theorem Value.ofNat_eq (n : Nat) : ofNat n = .int (IntegerRange.signed64.clamp n) := by
  have hmin : IntegerRange.signed64.min = -0x8000000000000000 := rfl
  have hmax : IntegerRange.signed64.max = 0x7fffffffffffffff := rfl
  rw [ofNat, IntegerRange.clamp, hmin, hmax, if_neg (by omega)]
  congr 1
  split <;> omega

theorem IntegerRange.clamp_of_contains {r : IntegerRange} {n : Int} (h : r.contains n = true) :
    r.clamp n = n := by
  rw [contains, Bool.and_eq_true, decide_eq_true_eq, decide_eq_true_eq] at h
  rw [clamp, if_neg (by omega), if_neg (by omega)]

/-! ## Conditions -/

namespace Condition

/-- The value that a condition binds. -/
def bound? (c : Condition) : Option Value := if c.comparison.takesValue then c.value else none

/-- The caller hands over the integer as the value of the condition. -/
inductive Hands (c : Condition) : Int → Prop
  /-- With sixty-four bits and a sign, or less. -/
  | signed {n : Int} (hn : IntegerRange.signed64.contains n = true) (h : c.value = some (.int n)) :
      Hands c n
  /-- As a count. -/
  | unsigned {n : Nat} (h : c.value = some (.ofNat n)) : Hands c n
  /-- As a literal in a document of views: `cs` is the text from the place of the value on. -/
  | written {n : Int} {e : ConditionEntry} {fuel room : Nat} {cs rest : List Char}
      (hn : IntegerRange.signed64.contains n = true)
      (hcs : Document.dropSpace cs = (toString n).toList ++ rest)
      (hrest : Document.EndsNumber rest)
      (hvalue : (Document.readValue (fuel + 1) cs).1.asOption (Document.asJson room) = .ok e.value)
      (hentry : ofEntry e = .ok c) : Hands c n

variable {c : Condition} {d : Dialect}

theorem values_predicate {p : Predicate} (h : c.predicate d = .ok p) :
    p.values = c.bound?.toList := by
  unfold predicate at h
  unfold bound?
  cases htakes : c.comparison.takesValue with
  | false =>
    simp only [htakes, Bool.false_eq_true, if_false, Except.ok.injEq] at h
    subst h
    simp
  | true =>
    simp only [htakes, if_true] at h
    cases hv : c.value with
    | none => simp [hv] at h
    | some v =>
      simp only [hv, Except.ok.injEq] at h
      subst h
      simp

theorem values_predicates {cs : List Condition} {ps : List Predicate}
    (h : cs.mapM (predicate d) = .ok ps) : ps.flatMap Predicate.values = cs.filterMap bound? := by
  have hall := mapM_eq_ok_iff.1 h
  clear h
  induction hall with
  | nil => rfl
  | cons hc _ ih =>
    rw [List.flatMap_cons, ih, values_predicate hc, List.filterMap_cons]
    cases bound? _ <;> rfl

/-- The condition of an entry with an integer for a value binds the integer. -/
theorem bound?_ofEntry {e : ConditionEntry} {n : Int} (h : ofEntry e = .ok c)
    (hvalue : e.value = some (.number (.int n))) (hn : IntegerRange.signed64.contains n = true)
    (htakes : c.comparison.takesValue = true) : c.bound? = some (.int n) := by
  unfold ofEntry at h
  simp only [hvalue, Value.ofJson, hn, if_true, Except.map, bind, Except.bind, pure, Except.pure]
    at h
  split at h
  · cases h
    rw [bound?, if_pos htakes]
  · rename_i hnot
    cases h
    exact absurd htakes hnot

/-- What is bound for an integer is the nearest one with a sign and sixty-four bits. -/
theorem Hands.bound? {n : Int} (h : c.Hands n) (htakes : c.comparison.takesValue = true) :
    c.bound? = some (.int (IntegerRange.signed64.clamp n)) := by
  cases h with
  | signed hn h => rw [Condition.bound?, if_pos htakes, h, IntegerRange.clamp_of_contains hn]
  | unsigned h => rw [Condition.bound?, if_pos htakes, h, Value.ofNat_eq]
  | @written n e fuel room cs rest hn hcs hrest hvalue hentry =>
    have hrange := hn
    rw [IntegerRange.contains, Bool.and_eq_true, decide_eq_true_eq, decide_eq_true_eq] at hrange
    have hmin : -0x8000000000000000 ≤ n := hrange.1
    have hmax : n ≤ 0x7fffffffffffffff := hrange.2
    rw [Document.readValue_integer fuel hmin (by omega) hcs hrest] at hvalue
    have hnumber : e.value = some (.number (.int n)) := (Except.ok.inj hvalue).symm
    rw [bound?_ofEntry hentry hnumber hn htakes, IntegerRange.clamp_of_contains hn]

end Condition

/-! ## Views -/

/-- The conditions of the view are made of those of the entry, in their order. -/
structure View.ConditionedBy (e : ViewEntry) (v : View) : Prop where
  result : List.Forall₂ (fun e c => Condition.ofEntry e = .ok c) e.whereResult v.base.result
  all : List.Forall₂ (fun e c => Condition.ofEntry e = .ok c) e.whereAll v.base.all

theorem Registry.conditioned_ofText {text : String} {reg : Registry} (h : ofText text = .ok reg) :
    ∃ entries, Document.decode ViewEntry.readAll text = .ok entries ∧
      List.Forall₂ (fun q v => View.ConditionedBy q.2 v) (sortEntries entries) reg.views := by
  obtain ⟨entries, hentries, hviews⟩ := ofText_ok h
  refine ⟨entries, hentries, hviews.imp fun q v hv => ?_⟩
  obtain ⟨columns, result, all, -, hresult, hall, -, -, -, rfl⟩ := View.ofEntry_ok hv
  exact ⟨mapM_eq_ok_iff.1 hresult, mapM_eq_ok_iff.1 hall⟩

/-! ## Plans -/

namespace Plan

/-- The values of the three statements, in their order: the terms that are searched for, the
conditions, and the page with its limit first. -/
structure BindsInOrder (r : Request) (schema : Schema) (p : Plan) : Prop where
  total : p.totalCount.values = r.base.all.filterMap Condition.bound?
  filtered : p.filteredCount.values =
    ((r.search.individual r.columns schema).filterMap Contribution.test?).map (·.2.value) ++
    ((r.search.global r.columns schema).filterMap Contribution.test?).map (·.2.value) ++
    r.base.result.filterMap Condition.bound? ++ r.base.all.filterMap Condition.bound?
  page : ∀ offset limit : Nat, r.page = .of offset limit →
    p.data.values = p.filteredCount.values ++
      [.int (IntegerRange.signed64.clamp (max limit 1 : Nat)),
        .int (IntegerRange.signed64.clamp offset)]

theorem bindsInOrder {d : Dialect} {r : Request} {schema : Schema} {p : Plan}
    (h : ofRequest d r schema = .ok p) : p.BindsInOrder r schema := by
  obtain ⟨rs, as, hrs, has, rfl⟩ := ofRequest_ok h
  obtain ⟨hdata, hfiltered, htotal⟩ := values_assembled d r schema rs as
  refine ⟨?_, ?_, fun offset limit hpage => ?_⟩
  · rw [← Condition.values_predicates has]
    exact htotal
  · rw [← Condition.values_predicates has, ← Condition.values_predicates hrs, ← values_found d]
    exact hfiltered
  · have hpaged := hdata
    rw [← hfiltered, hpage, Value.ofNat_eq, Value.ofNat_eq] at hpaged
    exact hpaged

/-- **An integer that the caller hands over is bound as the nearest one that has a sign and
sixty-four bits,** which is the integer itself if it has. -/
theorem binds_integers {d : Dialect} {r : Request} {schema : Schema} {p : Plan}
    (h : ofRequest d r schema = .ok p) :
    p.BindsInOrder r schema ∧
      (∀ (c : Condition) (n : Int), c.Hands n → c.comparison.takesValue = true →
        c.bound? = some (.int (IntegerRange.signed64.clamp n))) ∧
      (∀ n, IntegerRange.signed64.contains n = true → IntegerRange.signed64.clamp n = n) ∧
      ∀ (text : String) (reg : Registry), Registry.ofText text = .ok reg → ∃ entries,
        Document.decode ViewEntry.readAll text = .ok entries ∧
          List.Forall₂ (fun q v => View.ConditionedBy q.2 v) (Registry.sortEntries entries)
            reg.views :=
  ⟨bindsInOrder h, fun _ _ hc htakes => hc.bound? htakes,
    fun _ hn => IntegerRange.clamp_of_contains hn, fun _ _ => Registry.conditioned_ofText⟩

/-- A request with conditions on everything and a page of its own. -/
def limited (page : Page) (all : List Condition) : Request where
  table := "t"
  columns := [⟨"a", "a", true, true, none⟩]
  search := .empty
  order := []
  page := page
  draw := .null
  base := ⟨[], all⟩

def limitedSchema : Schema := [⟨"a", "int8", .integer⟩]

/-- The least integer as it is written in a document, the greatest one and one that no double is. -/
def extremes : List Condition :=
  [⟨"a", .ge, some (.int (-0x8000000000000000))⟩, ⟨"a", .le, some (.ofNat 0x7fffffffffffffff)⟩,
    ⟨"a", .isNotNull, some (.int 7)⟩, ⟨"a", .ne, some (.int 9007199254740993)⟩]

/-- An entry whose value is written as a literal makes the first of these conditions. -/
theorem written_extreme :
    (⟨"a", .ge, some (.int (-0x8000000000000000))⟩ : Condition).Hands (-0x8000000000000000) := by
  have hcs : Document.dropSpace " -9223372036854775808\x7d".toList =
      (toString (-0x8000000000000000 : Int)).toList ++ ['\x7d'] := by decide
  have hrest : Document.EndsNumber ['\x7d'] := by
    intro c hc
    obtain rfl := Option.some.inj hc
    decide
  have hvalue : (Document.readValue 1 " -9223372036854775808\x7d".toList).1.asOption
      (Document.asJson 0) = .ok (some (.number (.int (-0x8000000000000000)))) := by
    rw [Document.readValue_integer 0 (by decide) (by decide) hcs hrest]
    rfl
  have hentry : Condition.ofEntry ⟨"a", .ge, some (.number (.int (-0x8000000000000000)))⟩ =
      .ok ⟨"a", .ge, some (.int (-0x8000000000000000))⟩ := rfl
  exact .written (by decide) hcs hrest hvalue hentry

theorem binds_integers_extremes :
    ∃ p, ofRequest .mysql (limited (.of 0x8000000000000000 0) extremes) limitedSchema = .ok p ∧
      p.totalCount.values = [.int (-0x8000000000000000), .int 0x7fffffffffffffff,
        .int 9007199254740993] ∧
      p.data.values = p.filteredCount.values ++ [.int 1, .int 0x7fffffffffffffff] ∧
      (⟨"a", .ge, some (.int (-0x8000000000000000))⟩ : Condition).bound? =
        some (.int (-0x8000000000000000)) := by
  have hplan : ∃ p, ofRequest .mysql (limited (.of 0x8000000000000000 0) extremes) limitedSchema =
      .ok p := ⟨_, rfl⟩
  obtain ⟨p, hp⟩ := hplan
  obtain ⟨hvalues, hbound, -, -⟩ := binds_integers hp
  exact ⟨p, hp, hvalues.total, hvalues.page _ _ rfl, hbound _ _ written_extreme rfl⟩

/-- A count that has no integer with a sign is not bound as it is. -/
theorem huge_count_lost :
    ∃ p, ofRequest .postgres (limited .first [⟨"a", .eq, some (.ofNat 0xffffffffffffffff)⟩])
        limitedSchema = .ok p ∧
      ∀ s ∈ [p.data, p.filteredCount, p.totalCount], .int 0xffffffffffffffff ∉ s.values :=
  ⟨_, rfl, by decide⟩

end Plan

end GridQuery
