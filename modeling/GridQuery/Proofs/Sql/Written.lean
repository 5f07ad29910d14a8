import GridQuery.Proofs.Sql.Joined
import GridQuery.Proofs.Sql.Stencil

/-!
# How predicates are written

Writing a stencil takes the values one by one, each for the next mark; a mark for which no value is
left would be passed over. For what is built step by step this never happens. Behind any values that
a statement has already, a predicate is written with every mark numbered on from them
(`Predicate.sqlFrom_eq_numbered`, by induction on the pieces, where each mark counts for those
behind it), and joined predicates are written as their members, one behind the other.

Main result: `Predicate.built_written`.
-/

namespace GridQuery

/-! ## Writing stencils -/

/-- The text of a part, a mark being the `n`-th. -/
def Part.sqlAt (d : Dialect) (n : Nat) : Part → String
  | .text sql => sql
  | .mark => d.placeholder n

namespace Stencil

/-- Appends parts to a statement, each mark with the next of the values; a mark for which there is
none is passed over. -/
def writeParts (d : Dialect) : List Part → List Value → Statement → Statement
  | [], _, s => s
  | .text sql :: xs, vs, s => writeParts d xs vs (s.push sql)
  | .mark :: xs, v :: vs, s => writeParts d xs vs (s.bind d v)
  | .mark :: xs, [], s => writeParts d xs [] s

/-- Appends a stencil to a statement. -/
def write (d : Dialect) (m : Stencil) (s : Statement) : Statement := writeParts d m.parts m.values s

/-- The text of parts behind `k` values: the placeholder of a mark has the number of marks up to
it, counted on from `k`. -/
def numbered (d : Dialect) (k : Nat) (xs : List Part) : String :=
  String.join (xs.mapIdx fun i x => x.sqlAt d (k + (xs.take (i + 1)).count .mark))

theorem numbered_text (d : Dialect) (k : Nat) (sql : String) (xs : List Part) :
    numbered d k (.text sql :: xs) = sql ++ numbered d k xs := by
  simp [numbered, List.mapIdx_cons, Part.sqlAt]

theorem numbered_mark (d : Dialect) (k : Nat) (xs : List Part) :
    numbered d k (.mark :: xs) =
      d.placeholder (k + 1) ++ numbered d (k + 1) xs := by
  have hcount : ∀ i, k + ((Part.mark :: xs).take (i + 1 + 1)).count .mark =
      k + 1 + (xs.take (i + 1)).count .mark := by
    intro i
    rw [List.take_succ_cons, List.count_cons_self]
    omega
  rw [numbered, List.mapIdx_cons, String.join_cons]
  simp only [hcount]
  rfl

end Stencil

namespace Joint

/-- What stands between any two of the conditions. -/
def separator : Joint → String
  | .all | .conjunction => " AND "
  | .any => " OR "

/-- What stands before the conditions, and behind them. -/
def parentheses : Joint → String × String
  | .all | .any => ("(", ")")
  | .conjunction => ("", "")

end Joint

/-! ## Writing predicates -/

namespace Predicate

variable {p : Predicate} {m : Stencil}

/-- The text of a predicate is that of its parts, numbered on. -/
theorem sqlFrom_eq_numbered (d : Dialect) (k : Nat) (p : Predicate) :
    p.sqlFrom d k = Stencil.numbered d k p.stencil.parts := by
  show Piece.sqlFrom d k p.pieces = Stencil.numbered d k (p.pieces.map Piece.part)
  induction p.pieces generalizing k with
  | nil => rfl
  | cons x xs ih =>
    cases x with
    | text sql => rw [Piece.sqlFrom, ih, List.map_cons, Piece.part, Stencil.numbered_text]
    | bound v => rw [Piece.sqlFrom, ih, List.map_cons, Piece.part, Stencil.numbered_mark]

theorem pushPredicate_eq (d : Dialect) (p : Predicate) (s : Statement) :
    s.pushPredicate d p =
      ⟨s.sql ++ p.sqlFrom d s.values.length, s.values ++ p.values⟩ := by
  rw [← Statement.sql_pushPredicate, ← Statement.values_pushPredicate]

theorem write_stencil (d : Dialect) (p : Predicate) (s : Statement) :
    p.stencil.write d s = s.pushPredicate d p := by
  show Stencil.writeParts d (p.pieces.map Piece.part) (p.pieces.filterMap Piece.value?) s =
    p.pieces.foldl (Statement.pushPiece d) s
  induction p.pieces generalizing s with
  | nil => rfl
  | cons x xs ih =>
    rw [List.map_cons, List.foldl_cons]
    cases x with
    | text sql => exact ih (s.push sql)
    | bound v => exact ih (s.bind d v)

/-- How a predicate is written that is built as the stencil is. Behind the values that a statement
has already, each mark takes its number counted on from them, and all the values follow. Writing the
stencil, which would pass over a mark without a value, comes to the same. -/
structure Written (p : Predicate) (m : Stencil) : Prop where
  stencil : p.stencil = m
  text : ∀ d k, p.sqlFrom d k = Stencil.numbered d k m.parts
  pushed : ∀ (d : Dialect) (s : Statement), s.pushPredicate d p =
    ⟨s.sql ++ Stencil.numbered d s.values.length m.parts, s.values ++ m.values⟩
  alike : ∀ d s, m.write d s = s.pushPredicate d p

theorem written_of_built (h : Built p m) : Written p m := by
  obtain rfl := h.stencil_eq
  have htext : ∀ d k, p.sqlFrom d k = Stencil.numbered d k p.stencil.parts :=
    fun d k => sqlFrom_eq_numbered d k p
  refine ⟨rfl, htext, fun d s => ?_, fun d s => write_stencil d p s⟩
  rw [pushPredicate_eq, htext]
  rfl

/-- How predicates are written that are joined. Those that are not empty stand in their order, each
numbered behind the values of the ones before it, with the separator between any two and one pair of
parentheses, or none, around them. Nothing is joined if all of them are empty. -/
structure JoinedBy (j : Joint) (ps : List Predicate) (joined : Option Predicate) : Prop where
  absent : joined = none ↔ ∀ p ∈ ps, p.isEmpty
  pushed : ∀ q ∈ joined, ∀ (d : Dialect) (s : Statement), s.pushPredicate d q =
    ⟨s.sql ++ (j.parentheses.1 ++
        j.separator.intercalate (texts d s.values.length (ps.filter (!·.isEmpty))) ++
        j.parentheses.2),
      s.values ++ (ps.filter (!·.isEmpty)).flatMap values⟩

theorem filled_eq_nil_iff {ps : List Predicate} :
    ps.filter (!·.isEmpty) = [] ↔ ∀ p ∈ ps, p.isEmpty := by
  simp [List.filter_eq_nil_iff]

theorem joinedBy_group {j : Joint} (hj : j.parentheses = ("(", ")")) (ps : List Predicate) :
    JoinedBy j ps (group j.separator ps) := by
  have hjoins := fun d => joins_group d j.separator ps
  refine ⟨(hjoins .mysql).absent.trans filled_eq_nil_iff, fun q hq d s => ?_⟩
  rw [pushPredicate_eq, (hjoins d).text q hq, (hjoins d).values q hq, hj]

theorem joinedBy_conjunction (ps : List Predicate) :
    JoinedBy .conjunction ps (conjunction ps) := by
  unfold conjunction
  constructor
  · rw [← filled_eq_nil_iff]
    cases ps.filter (!·.isEmpty) <;> simp
  · intro q hq d s
    cases hps : ps.filter (!·.isEmpty) with
    | nil => simp [hps] at hq
    | cons p ps' =>
      rw [hps] at hq
      obtain rfl := Option.some.inj hq
      rw [pushPredicate_eq, sqlFrom_appendAll, values_appendAll]
      simp [Joint.parentheses, Joint.separator]

theorem joinedBy_predicate (j : Joint) (ps : List Predicate) : JoinedBy j ps (j.predicate? ps) := by
  cases j with
  | all => exact joinedBy_group rfl ps
  | any => exact joinedBy_group rfl ps
  | conjunction => exact joinedBy_conjunction ps

/-- **What is built is written with all its marks, and what is joined as its members.** The steps
build just the sound stencils; a predicate built by the same steps is written as its stencil says;
and joining is such a step, by which the members that are not empty are written in their order. -/
theorem built_written :
    (∀ m, (∃ p, Built p m) ↔ m.Sound) ∧ (∀ p m, Built p m → Written p m) ∧
    ∀ (j : Joint) (xs : List (Predicate × Stencil)), (∀ x ∈ xs, Built x.1 x.2) →
      Option.Rel Built (j.predicate? (xs.map Prod.fst)) (j.stencil? (xs.map Prod.snd)) ∧
      JoinedBy j (xs.map Prod.fst) (j.predicate? (xs.map Prod.fst)) :=
  ⟨fun _ => Stencil.exists_built_iff, fun _ _ => written_of_built,
    fun j _ h => ⟨Built.joined j h, joinedBy_predicate j _⟩⟩

/-! ## An alternative -/

/-- A condition that ends with its value, an empty one, and one that is a value and empty text. -/
def alternatives : List (Predicate × Stencil) :=
  [((empty.push "x = ").bind (.int 1), (Stencil.empty.push "x = ").bind (.int 1)),
    (empty, .empty),
    ((empty.bind (.bool true)).push "", (Stencil.empty.bind (.bool true)).push "")]

def alternative : Predicate :=
  ⟨[.text "(x = ", .bound (.int 1), .text " OR ", .bound (.bool true), .text ")"]⟩

theorem built_alternatives : ∀ x ∈ alternatives, Built x.1 x.2 := by
  intro x hx
  simp only [alternatives, List.mem_cons, List.not_mem_nil, or_false] at hx
  rcases hx with rfl | rfl | rfl
  · exact (Built.empty.push _).bind _
  · exact .empty
  · exact (Built.empty.bind _).push _

theorem built_written_alternative :
    Built alternative alternative.stencil ∧ alternative.stencil.Sound ∧
      (⟨"y = $1 AND ", [.int 7]⟩ : Statement).pushPredicate .postgres alternative =
        ⟨"y = $1 AND (x = $2 OR $3)", [.int 7, .int 1, .bool true]⟩ ∧
      JoinedBy .any (alternatives.map Prod.fst) (some alternative) := by
  obtain ⟨hsound, hwritten, hjoined⟩ := built_written
  obtain ⟨hbuilt, hjoin⟩ := hjoined .any alternatives built_alternatives
  have hp : Joint.any.predicate? (alternatives.map Prod.fst) = some alternative := by
    decide +kernel
  have hm : Joint.any.stencil? (alternatives.map Prod.snd) = some alternative.stencil := by
    decide +kernel
  rw [hp, hm] at hbuilt
  rw [hp] at hjoin
  cases hbuilt with
  | some hbuilt =>
    refine ⟨hbuilt, (hsound _).1 ⟨_, hbuilt⟩, ?_, hjoin⟩
    rw [(hwritten _ _ hbuilt).pushed]
    decide +kernel

end Predicate

end GridQuery
