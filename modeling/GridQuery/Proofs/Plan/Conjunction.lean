import GridQuery.Proofs.Plan.Statement

/-!
# Conjunctions of conjunctions

A conjunction keeps its first member as it is and appends the others, each behind an AND. Text that
is appended behind text merges with it, so the pieces of a conjunction could depend on the order in
which its members are put together. They do not: what is appended to an appended predicate might
as well be appended to the whole (`Predicate.append_assoc`), whichever texts meet at the seam. So a
conjunction dissolves into one around it, wherever it stands there (`Predicate.conjunction_within`).

Main result: `Plan.conjunction_nested`, for three conjunctions within one, and for the WHERE of a
plan.
-/

namespace GridQuery

namespace Predicate

/-! ## Appending -/

theorem pushText_pushText (s t : String) (ps : List Piece) :
    pushText t (pushText s ps) = pushText (s ++ t) ps := by
  induction ps using pushText.induct with
  | case1 => rfl
  | case2 last => simp [pushText, String.append_assoc]
  | case3 x rest h ih =>
    rw [pushText, pushText, pushText, ih]
    · exact h
    · intro last hx hnil
      exact pushText_ne_nil s rest hnil
    · exact h

theorem push_push (p : Predicate) (s t : String) : (p.push s).push t = p.push (s ++ t) :=
  congrArg Predicate.mk (pushText_pushText s t p.pieces)

/-- Text at the end of what is appended may be pushed afterwards. -/
theorem append_push (p q : Predicate) (sql : String) :
    p.append (q.push sql) = (p.append q).push sql := by
  obtain ⟨qs⟩ := q
  show (pushText sql qs).foldl pushPiece p = (qs.foldl pushPiece p).push sql
  induction qs using pushText.induct generalizing p with
  | case1 => rfl
  | case2 last => exact (push_push p last sql).symm
  | case3 x rest h ih =>
    rw [pushText, List.foldl_cons, List.foldl_cons, ih]
    exact h

theorem append_bind (p q : Predicate) (v : Value) : p.append (q.bind v) = (p.append q).bind v := by
  show (q.pieces ++ [Piece.bound v]).foldl pushPiece p = _
  rw [List.foldl_append]
  rfl

theorem append_pushPiece (p q : Predicate) (x : Piece) :
    p.append (q.pushPiece x) = (p.append q).pushPiece x := by
  cases x with
  | text sql => exact append_push p q sql
  | bound v => exact append_bind p q v

theorem append_assoc (p q r : Predicate) : p.append (q.append r) = (p.append q).append r := by
  obtain ⟨rs⟩ := r
  show p.append (rs.foldl pushPiece q) = rs.foldl pushPiece (p.append q)
  induction rs generalizing q with
  | nil => rfl
  | cons x rs ih => rw [List.foldl_cons, List.foldl_cons, ih, append_pushPiece]

theorem append_appendAll (sep : String) (p q : Predicate) (rs : List Predicate) :
    p.append (appendAll sep q rs) = appendAll sep (p.append q) rs := by
  induction rs generalizing q with
  | nil => rfl
  | cons r rs ih =>
    show p.append (appendAll sep ((q.push sep).append r) rs) = _
    rw [ih, append_assoc, append_push]
    rfl

theorem appendAll_append (sep : String) (p : Predicate) (qs rs : List Predicate) :
    appendAll sep p (qs ++ rs) = appendAll sep (appendAll sep p qs) rs := List.foldl_append

/-- Behind another predicate, joined predicates are as good as one by one. -/
theorem appendAll_cons_appendAll (sep : String) (p q : Predicate) (qs rs : List Predicate) :
    appendAll sep p (appendAll sep q qs :: rs) = appendAll sep p (q :: qs ++ rs) := by
  rw [appendAll_append]
  show appendAll sep ((p.push sep).append (appendAll sep q qs)) rs =
    appendAll sep (appendAll sep ((p.push sep).append q) qs) rs
  rw [append_appendAll]

/-! ## Nested conjunctions -/

theorem filter_conjunction (ps : List Predicate) :
    (conjunction ps).toList.filter (!·.isEmpty) = (conjunction ps).toList := by
  unfold conjunction
  cases h : ps.filter (!·.isEmpty) with
  | nil => rfl
  | cons p qs =>
    have hp : p ∈ ps.filter (!·.isEmpty) := h ▸ List.mem_cons_self
    have hfilled : (appendAll " AND " p qs).isEmpty = false :=
      isEmpty_appendAll (by simpa using (List.mem_filter.1 hp).2) _ qs
    simp [hfilled]

/-- **A conjunction dissolves into one around it.** -/
theorem conjunction_within (ps qs rs : List Predicate) :
    conjunction (ps ++ (conjunction qs).toList ++ rs) = conjunction (ps ++ qs ++ rs) := by
  cases hps : ps.filter (!·.isEmpty) with
  | nil =>
    -- The inner conjunction comes first, and so does its first member.
    have hhead : ∀ xs, conjunction (ps ++ xs) = conjunction xs := by
      intro xs
      rw [conjunction, conjunction, List.filter_append, hps, List.nil_append]
    rw [List.append_assoc, List.append_assoc, hhead, hhead, conjunction_conjunction]
  | cons p ps' =>
    have hall : ∀ xs, conjunction (ps ++ xs) =
        some (appendAll " AND " p (ps' ++ xs.filter (!·.isEmpty))) := by
      intro xs
      rw [conjunction, List.filter_append, hps]
      rfl
    rw [List.append_assoc, List.append_assoc, hall, hall, List.filter_append, List.filter_append,
      filter_conjunction, conjunction]
    cases qs.filter (!·.isEmpty) with
    | nil => rfl
    | cons q qs' =>
      show some (appendAll " AND " p
        (ps' ++ appendAll " AND " q qs' :: rs.filter (!·.isEmpty))) = _
      rw [appendAll_append, appendAll_cons_appendAll, ← appendAll_append]

/-- The conjunction of conjunctions is that of all their members. -/
theorem conjunction_filterMap (ps : List Predicate) (qss : List (List Predicate)) :
    conjunction (ps ++ qss.filterMap conjunction) = conjunction (ps ++ qss.flatten) := by
  induction qss generalizing ps with
  | nil => rfl
  | cons qs qss ih =>
    have hcons : (qs :: qss).filterMap conjunction =
        (conjunction qs).toList ++ qss.filterMap conjunction := by
      rw [List.filterMap_cons]
      cases conjunction qs <;> rfl
    rw [hcons, ← List.append_assoc, conjunction_within, ih, List.flatten_cons, List.append_assoc]

end Predicate

namespace Plan

/-- **It does not matter how conjunctions are nested.** Three conjunctions within one are the
conjunction of all the members, piece by piece; so a plan, which joins the halves of its filter
first, has the conjunction of the four groups for its WHERE. -/
theorem conjunction_nested :
    (∀ ps qs rs, Predicate.conjunction ([ps, qs, rs].filterMap Predicate.conjunction) =
      Predicate.conjunction (ps ++ qs ++ rs)) ∧
    ∀ (d : Dialect) (r : Request) (schema : Schema) (p : Plan), ofRequest d r schema = .ok p →
      ∃ f result all, f = Filter.ofSearch d r.columns schema r.search ∧
        Condition.group d r.base.result = .ok result ∧ Condition.group d r.base.all = .ok all ∧
        ∃ found, found = Predicate.conjunction
            (f.individual.toList ++ f.global.toList ++ result.toList ++ all.toList) ∧
          p.filteredCount = countStatement d r.table found ∧
          p.data = dataStatement d r.table p.selected found
            (Order.items d r.table r.columns schema r.order) r.page := by
  constructor
  · intro ps qs rs
    -- The inner conjunctions dissolve one at a time, from an empty outer one.
    have h := Predicate.conjunction_filterMap [] [ps, qs, rs]
    simpa using h
  · intro d r schema p h
    obtain ⟨rs, as, hrs, has, rfl⟩ := ofRequest_ok h
    refine ⟨_, Predicate.all rs, Predicate.all as, rfl, ?_, ?_, found d r schema rs as,
      found_eq d r schema rs as, rfl, rfl⟩
    · rw [Condition.group, hrs]
      rfl
    · rw [Condition.group, has]
      rfl

/-- The four groups of the hostile request. -/
def hostileGroups : List Predicate :=
  [⟨[.text "(\"x\"\"?$1\" ILIKE ", .bound (.text "%t%"), .text ")"]⟩,
    ⟨[.text "(\"x\"\"?$1\" ILIKE ", .bound (.text "%u%"), .text " OR \"y` OR 1 = 1\" ILIKE ",
      .bound (.text "%u%"), .text ")"]⟩,
    ⟨[.text "(\"` OR 1 = 1\" IS NULL)"]⟩,
    ⟨[.text "(\"\"\"\" = ", .bound (.int 1), .text ")"]⟩]

theorem conjunction_nested_hostile :
    ∃ p, ofRequest .postgres hostile hostileSchema = .ok p ∧
      p.filteredCount =
        countStatement .postgres hostile.table (Predicate.conjunction hostileGroups) := by
  have hplan : ∃ p, ofRequest .postgres hostile hostileSchema = .ok p := ⟨_, rfl⟩
  obtain ⟨p, hp⟩ := hplan
  obtain ⟨f, result, all, rfl, hresult, hall, found, rfl, hcount, -⟩ :=
    conjunction_nested.2 .postgres hostile hostileSchema p hp
  have hresult' : Condition.group .postgres hostile.base.result = .ok (hostileGroups[2]?) := by
    decide +kernel
  have hall' : Condition.group .postgres hostile.base.all = .ok (hostileGroups[3]?) := by
    decide +kernel
  obtain rfl : hostileGroups[2]? = result := Except.ok.inj (hresult'.symm.trans hresult)
  obtain rfl : hostileGroups[3]? = all := Except.ok.inj (hall'.symm.trans hall)
  have hgroups : (Filter.ofSearch .postgres hostile.columns hostileSchema
      hostile.search).individual.toList ++ (Filter.ofSearch .postgres hostile.columns hostileSchema
      hostile.search).global.toList ++ hostileGroups[2]?.toList ++ hostileGroups[3]?.toList =
        hostileGroups := by decide +kernel
  rw [hgroups] at hcount
  exact ⟨p, hp, hcount⟩

end Plan

end GridQuery
