import GridQuery.Proofs.Number.Decimal
import GridQuery.Proofs.Plan.Findings
import GridQuery.Proofs.Plan.Integers
import GridQuery.Proofs.Text.Lower

/-!
# Search terms and their types

What a search binds has the type of the column. A category says what the characters of a term denote
once the blanks around them are gone, and a term asks for something exactly if it denotes a value of
the category; in a text column it asks to be contained, or to be matched as a pattern. What carries
over to a plan is that every test in it comes from a term that was read for the live category of its
column.

Main result: `Predicate.typed_search`.
-/

namespace GridQuery

open Text

/-- The category of the columns that a value is compared with. -/
def Value.category : Value → Category
  | .text _ => .text
  | .int _ => .integer
  | .float _ => .float
  | .bool _ => .boolean
  | .date _ => .date
  | .dateTime _ => .dateTime

/-! ## Meanings -/

/-- The characters are a truth value: a word in letters of either case, or a digit. -/
inductive BooleanWord : List Char → Bool → Prop
  | word_true {cs : List Char} (h : cs.map Char.toLower = ['t', 'r', 'u', 'e']) :
      BooleanWord cs true
  | digit_true : BooleanWord ['1'] true
  | word_false {cs : List Char} (h : cs.map Char.toLower = ['f', 'a', 'l', 's', 'e']) :
      BooleanWord cs false
  | digit_false : BooleanWord ['0'] false

/-- The value that the characters denote in a category other than text: an integer of sixty-four
bits with a sign, the finite double nearest to a decimal number, a truth value, a date or a
datetime. -/
inductive Denotes : Category → List Char → Value → Prop
  | integer {cs : List Char} {n : Int} (h : IntegerLiteral cs n)
      (hrange : IntegerRange.signed64.contains n = true) : Denotes .integer cs (.int n)
  | float {cs : List Char} {x : Double} (h : x.Denoted cs) (hfinite : x.isFinite = true) :
      Denotes .float cs (.float x)
  | boolean {cs : List Char} {b : Bool} (h : BooleanWord cs b) : Denotes .boolean cs (.bool b)
  | date {cs : List Char} {d : Date} (h : Calendar.readDateChars cs = some d) :
      Denotes .date cs (.date d)
  | dateTime {cs : List Char} {t : DateTime} (h : Calendar.readDateTimeChars cs = some t) :
      Denotes .dateTime cs (.dateTime t)

theorem Denotes.category_eq {category : Category} {cs : List Char} {v : Value}
    (h : Denotes category cs v) : v.category = category := by
  cases h <;> rfl

namespace TermTest

variable {valid : String → Bool} {category : Category} {term : String} {regex : Bool} {t : TermTest}
  {v : Value}

/-- Each word has a truth value of its own. -/
theorem readBool_eq_some_iff {b : Bool} :
    readBool term = some b ↔ BooleanWord (trimChars term.toList) b := by
  have hlower (s : String) :
      asciiLower (trim term) = s ↔ (trimChars term.toList).map Char.toLower = s.toList := by
    rw [asciiLower, trim, String.toList_ofList, ← String.toList_inj, String.toList_ofList]
  constructor
  · intro h
    unfold readBool at h
    -- The digits have no case, so that lowering leaves them alone.
    split at h
    · rename_i heq
      cases h
      exact .word_true ((hlower _).1 heq)
    · rename_i heq
      cases h
      exact (map_toLower_digit rfl).1 ((hlower _).1 heq) ▸ .digit_true
    · rename_i heq
      cases h
      exact .word_false ((hlower _).1 heq)
    · rename_i heq
      cases h
      exact (map_toLower_digit rfl).1 ((hlower _).1 heq) ▸ .digit_false
    · cases h
  · intro h
    unfold readBool
    generalize hword : trimChars term.toList = cs at h hlower
    cases h with
    | word_true h =>
      rw [(hlower "true").2 h]
      rfl
    | digit_true =>
      rw [(hlower "1").2 rfl]
      rfl
    | word_false h =>
      rw [(hlower "false").2 h]
      rfl
    | digit_false =>
      rw [(hlower "0").2 rfl]
      rfl

/-- **A term has the value that its characters denote.** -/
theorem valueOf?_eq_some_iff :
    valueOf? category term = some v ↔ Denotes category (trimChars term.toList) v := by
  have htrim : (trim term).toList = trimChars term.toList := by rw [trim, String.toList_ofList]
  -- One reader for each category, with what it accepts known from its own lemma.
  cases category with
  | text => exact iff_of_false (by simp [valueOf?]) (by rintro ⟨⟩)
  | unknown => exact iff_of_false (by simp [valueOf?]) (by rintro ⟨⟩)
  | integer =>
    simp only [valueOf?, Option.map_eq_some_iff, IntegerRange.signed64_read?_eq_some_iff, htrim]
    constructor
    · rintro ⟨n, ⟨h, hrange⟩, rfl⟩
      exact .integer h hrange
    · rintro ⟨h, hrange⟩
      exact ⟨_, ⟨h, hrange⟩, rfl⟩
  | float =>
    simp only [valueOf?, Option.map_eq_some_iff, Double.read?_eq_some_iff, htrim]
    constructor
    · rintro ⟨x, ⟨h, hfinite⟩, rfl⟩
      exact .float h hfinite
    · intro h
      cases h with
      | float h hfinite => exact ⟨_, ⟨h, hfinite⟩, rfl⟩
  | boolean =>
    simp only [valueOf?, Option.map_eq_some_iff, readBool_eq_some_iff]
    constructor
    · rintro ⟨b, h, rfl⟩
      exact .boolean h
    · intro h
      cases h with
      | boolean h => exact ⟨_, h, rfl⟩
  | date =>
    simp only [valueOf?, Option.map_eq_some_iff, Calendar.readDate]
    constructor
    · rintro ⟨d, h, rfl⟩
      exact .date h
    · intro h
      cases h with
      | date h => exact ⟨_, h, rfl⟩
  | dateTime =>
    simp only [valueOf?, Option.map_eq_some_iff, Calendar.readDateTime]
    constructor
    · rintro ⟨d, h, rfl⟩
      exact .dateTime h
    · intro h
      cases h with
      | dateTime h => exact ⟨_, h, rfl⟩

/-! ## Terms -/

/-- What the term asks of a column of the category, where `valid` knows the valid patterns: to
contain it, its wildcards escaped, to match it as a pattern, or to equal what it denotes without the
blanks around it. -/
inductive Asked (valid : String → Bool) (term : String) (regex : Bool) : Category → TermTest → Prop
  | contains (h : regex = false) :
      Asked valid term regex .text (.contains ("%" ++ escapeWildcards term ++ "%"))
  | matchesPattern (h : regex = true) (hvalid : valid term = true) :
      Asked valid term regex .text (.matchesPattern term)
  | equals {category : Category} {v : Value} (h : Denotes category (trimChars term.toList) v) :
      Asked valid term regex category (.equals v)

theorem Asked.category_eq (h : Asked valid term regex category t) :
    t.value.category = category := by
  cases h with
  | contains => rfl
  | matchesPattern => rfl
  | equals h => exact h.category_eq

/-- The meaning of a term, if it has one. -/
def asked? (valid : String → Bool) (category : Category) (term : String) (regex : Bool) :
    Option TermTest :=
  if category = .text then
    if regex then if valid term then some (.matchesPattern term) else none
    else some (.contains ("%" ++ escapeWildcards term ++ "%"))
  else (valueOf? category term).map .equals

/-- **The meaning that is found is the one the term has.** -/
theorem asked?_eq_some_iff :
    asked? valid category term regex = some t ↔ Asked valid term regex category t := by
  unfold asked?
  split
  -- A text column asks for the term itself, any other one for the value that the term denotes.
  · rename_i htext
    subst htext
    constructor
    · intro h
      split at h
      · rename_i hregex
        obtain ⟨hvalid, heq⟩ := Option.ite_none_right_eq_some.1 h
        cases heq
        exact .matchesPattern hregex hvalid
      · rename_i hregex
        cases h
        exact .contains (Bool.eq_false_iff.2 hregex)
    · intro h
      cases h with
      | contains h => simp [h]
      | matchesPattern h hvalid => simp [h, hvalid]
      | equals h => cases h
  · rename_i htext
    rw [Option.map_eq_some_iff]
    constructor
    · rintro ⟨v, hv, rfl⟩
      exact .equals (valueOf?_eq_some_iff.1 hv)
    · intro h
      cases h with
      | contains => exact absurd rfl htext
      | matchesPattern => exact absurd rfl htext
      | equals h => exact ⟨_, valueOf?_eq_some_iff.2 h, rfl⟩

theorem asked?_unknown : asked? valid .unknown term regex = none := rfl

theorem readWith_unknown (hterm : term ≠ "") :
    readWith valid .unknown term regex = .error .unsupportedCategory := by
  simp [readWith, hterm]

/-- In a category with a type a term is turned down if it has no meaning, for no other reason. -/
theorem readWith_known (hterm : term ≠ "") (hknown : category ≠ .unknown) :
    readWith valid category term regex =
      (asked? valid category term regex).elim (.error .unparsable) .ok := by
  cases category with
  | text =>
    simp only [readWith, asked?, String.isEmpty_iff, hterm, if_false, if_true]
    cases regex <;> cases valid term <;> rfl
  | unknown => exact absurd rfl hknown
  | _ =>
    simp only [readWith, asked?, String.isEmpty_iff, hterm, if_false, reduceCtorEq]
    generalize valueOf? _ term = value
    cases value <;> rfl

/-- What is read is the meaning of a term that is not empty. -/
theorem asked_of_readWith (hread : readWith valid category term regex = .ok t) :
    term ≠ "" ∧ Asked valid term regex category t := by
  have hterm : term ≠ "" := by
    rintro rfl
    cases hread
  have hknown : category ≠ .unknown := by
    rintro rfl
    rw [readWith_unknown hterm] at hread
    cases hread
  rw [readWith_known hterm hknown] at hread
  cases hasked : asked? valid category term regex with
  | none =>
    rw [hasked] at hread
    cases hread
  | some u =>
    rw [hasked] at hread
    cases hread
    exact ⟨hterm, asked?_eq_some_iff.1 hasked⟩

end TermTest

/-! ## Predicates -/

namespace Predicate

/-- The predicate of a term on a column, where `valid` knows the valid patterns. -/
def ofTermWith (valid : String → Bool) (d : Dialect) (source : String) (category : Category)
    (term : String) (regex : Bool) : Except TermSkip Predicate :=
  (TermTest.readWith valid category term regex).map (TermTest.predicate d source)

theorem ofTermWith_isValid (d : Dialect) (source : String) (category : Category) (term : String)
    (regex : Bool) : ofTermWith Pattern.isValid d source category term regex =
      ofTerm d source category term regex := rfl

open TermTest

/-- What a term gives on a column of the category: a predicate with one value, which has the type of
the category and the meaning of the term in it, or the reason why it gives none. -/
structure Typed (valid : String → Bool) (d : Dialect) (source : String) (category : Category)
    (term : String) (regex : Bool) : Prop where
  ok_iff : ∀ p, ofTermWith valid d source category term regex = .ok p ↔
    term ≠ "" ∧ ∃ t, Asked valid term regex category t ∧ t.predicate d source = p
  value : ∀ t, Asked valid term regex category t →
    (t.predicate d source).values = [t.value] ∧ t.value.category = category
  empty_iff : ofTermWith valid d source category term regex = .error .emptyTerm ↔ term = ""
  unsupported_iff : ofTermWith valid d source category term regex = .error .unsupportedCategory ↔
    term ≠ "" ∧ category = .unknown
  unparsable_iff : ofTermWith valid d source category term regex = .error .unparsable ↔
    term ≠ "" ∧ category ≠ .unknown ∧ ∀ t, ¬ Asked valid term regex category t

variable {valid : String → Bool} {d : Dialect} {source term : String} {category : Category}
  {regex : Bool}

/-- **A term gives what it means in the category,** or the reason why it means nothing. -/
theorem typed (valid : String → Bool) (d : Dialect) (source : String) (category : Category)
    (term : String) (regex : Bool) : Typed valid d source category term regex := by
  have hvalue (t : TermTest) (h : Asked valid term regex category t) :
      (t.predicate d source).values = [t.value] ∧ t.value.category = category :=
    ⟨t.values_predicate d source, h.category_eq⟩
  -- The two reasons that come before any reading first, then the reading itself.
  by_cases hterm : term = ""
  · subst hterm
    have hread : ofTermWith valid d source category "" regex = .error .emptyTerm := rfl
    refine ⟨fun p => ?_, hvalue, ?_, ?_, ?_⟩ <;> simp [hread]
  · by_cases hknown : category = .unknown
    · subst hknown
      have hread : ofTermWith valid d source .unknown term regex = .error .unsupportedCategory := by
        rw [ofTermWith, readWith_unknown hterm]
        rfl
      refine ⟨fun p => ?_, hvalue, ?_, ?_, ?_⟩ <;>
        simp [hread, hterm, ← asked?_eq_some_iff, asked?_unknown]
    · have hread : ofTermWith valid d source category term regex =
          ((asked? valid category term regex).map (predicate d source)).elim (.error .unparsable)
            .ok := by
        rw [ofTermWith, readWith_known hterm hknown]
        cases asked? valid category term regex <;> rfl
      refine ⟨fun p => ?_, hvalue, ?_, ?_, ?_⟩ <;>
        cases hasked : asked? valid category term regex <;>
          simp [hread, hterm, hknown, ← asked?_eq_some_iff, hasked]

end Predicate

/-! ## Plans -/

namespace Search

variable {columns : List Column} {schema : Schema} {x : String × TermTest}

/-- A test of an entry was read for the live category of its column. -/
theorem read_of_ofEntry {f : ColumnSearch} (h : (ofEntry columns schema f).test? = some x) :
    ∃ live, schema.find? x.1 = some live ∧
      TermTest.read live.category f.term f.regex = .ok x.2 := by
  cases hterm : f.term.isEmpty with
  | true =>
    rw [ofEntry_blank hterm] at h
    cases h
  | false =>
    rcases ofEntry_cases hterm with ⟨c, live, t, -, hlive, hread, htest⟩ | ⟨d, -, hfinding⟩
    · rw [htest] at h
      cases h
      exact ⟨live, hlive, hread⟩
    · rw [hfinding] at h
      cases h

/-- So was a test of the global search. -/
theorem read_of_ofGlobal {g : GlobalSearch} {c : Column}
    (h : (ofGlobal schema g c).test? = some x) :
    ∃ live, schema.find? x.1 = some live ∧
      TermTest.read live.category g.term g.regex = .ok x.2 := by
  unfold ofGlobal at h
  split at h
  · cases h
  · rename_i live hlive
    split at h
    · rename_i t hread
      cases h
      exact ⟨live, hlive, hread⟩
    · cases h
    · cases h

end Search

namespace Plan

/-- The tests of the search, each with the column that it is on. -/
def searched (r : Request) (schema : Schema) : List (String × TermTest) :=
  (r.search.individual r.columns schema).filterMap Contribution.test? ++
    (r.search.global r.columns schema).filterMap Contribution.test?

/-- The request searches for the term, in one column or in all of them. -/
def SearchesFor (r : Request) (term : String) (regex : Bool) : Prop :=
  (∃ f ∈ r.search.perColumn, f.term = term ∧ f.regex = regex) ∨
    r.search.overall = some ⟨term, regex⟩

/-- A test is on a column of the table, for a term that the request searches for. -/
theorem read_of_searched {r : Request} {schema : Schema} {x : String × TermTest}
    (h : x ∈ searched r schema) :
    ∃ live term regex, schema.find? x.1 = some live ∧ SearchesFor r term regex ∧
      TermTest.read live.category term regex = .ok x.2 := by
  rcases List.mem_append.1 h with h | h
  · obtain ⟨_, hmem, htest⟩ := List.mem_filterMap.1 h
    obtain ⟨f, hf, rfl⟩ := List.mem_map.1 hmem
    obtain ⟨live, hlive, hread⟩ := Search.read_of_ofEntry htest
    exact ⟨live, f.term, f.regex, hlive, .inl ⟨f, hf, rfl, rfl⟩, hread⟩
  · obtain ⟨_, hmem, htest⟩ := List.mem_filterMap.1 h
    unfold Search.global at hmem
    split at hmem
    · cases hmem
    · rename_i g hg
      split at hmem
      · cases hmem
      · obtain ⟨c, -, rfl⟩ := List.mem_map.1 hmem
        obtain ⟨live, hlive, hread⟩ := Search.read_of_ofGlobal htest
        exact ⟨live, g.term, g.regex, hlive, .inr hg, hread⟩

/-- The plan binds one value for each test of the search, before all other values, and the value has
the type of the column that the test is on and the meaning of a term there. -/
structure TypedSearch (r : Request) (schema : Schema) (p : Plan) : Prop where
  filtered : p.filteredCount.values = (searched r schema).map (·.2.value) ++
    r.base.result.filterMap Condition.bound? ++ r.base.all.filterMap Condition.bound?
  page : p.data.values =
    p.filteredCount.values ++ [.ofNat r.page.limit, .ofNat r.page.offset]
  typed : ∀ x ∈ searched r schema, ∃ live, schema.find? x.1 = some live ∧
    x.2.value.category = live.category ∧
    ∃ term regex, SearchesFor r term regex ∧ term ≠ "" ∧
      TermTest.Asked Pattern.isValid term regex live.category x.2

theorem typedSearch {d : Dialect} {r : Request} {schema : Schema} {p : Plan}
    (h : ofRequest d r schema = .ok p) : p.TypedSearch r schema := by
  have hbinds := bindsInOrder h
  obtain ⟨rs, as, -, -, rfl⟩ := ofRequest_ok h
  obtain ⟨hdata, hfiltered, -⟩ := values_assembled d r schema rs as
  refine ⟨?_, ?_, fun x hx => ?_⟩
  · rw [searched, List.map_append]
    exact hbinds.filtered
  · rw [← hfiltered] at hdata
    exact hdata
  · obtain ⟨live, term, regex, hlive, hsearches, hread⟩ := read_of_searched hx
    obtain ⟨hterm, hasked⟩ := TermTest.asked_of_readWith hread
    exact ⟨live, hlive, hasked.category_eq, term, regex, hsearches, hterm, hasked⟩

end Plan

namespace Predicate

/-- **A search binds a value of the column's type.** On every column a term gives a predicate with
one value that has the type of the category and the meaning of the term in it, or the one reason why
it gives none, whichever patterns are valid. So every value that a plan binds for a search has the
type of its column. -/
theorem typed_search (valid : String → Bool) :
    (∀ (d : Dialect) (source : String) (category : Category) (term : String) (regex : Bool),
      Typed valid d source category term regex) ∧
    (∀ (d : Dialect) (source : String) (category : Category) (term : String) (regex : Bool),
      ofTerm d source category term regex =
        ofTermWith Pattern.isValid d source category term regex) ∧
    ∀ (d : Dialect) (r : Request) (schema : Schema) (p : Plan),
      Plan.ofRequest d r schema = .ok p → p.TypedSearch r schema :=
  ⟨typed valid, ofTermWith_isValid, fun _ _ _ _ => Plan.typedSearch⟩

/-- An integer between blanks, a pattern that is none, and a plan with both searches. -/
theorem typed_search_mixed :
    ofTermWith Pattern.isValid .postgres "a" .integer " +7 " false =
      .ok (TermTest.predicate .postgres "a" (.equals (.int 7))) ∧
    ofTermWith Pattern.isValid .mysql "a" .text "" true = .error .emptyTerm ∧
    ∃ p, Plan.ofRequest .mysql
        { Plan.limited .first [] with search := ⟨[⟨"a", " 7", false, true⟩], some ⟨"+8", true⟩⟩ }
        Plan.limitedSchema = .ok p ∧
      p.TypedSearch
        { Plan.limited .first [] with search := ⟨[⟨"a", " 7", false, true⟩], some ⟨"+8", true⟩⟩ }
        Plan.limitedSchema ∧
      p.filteredCount.values = [.int 7, .int 8] := by
  obtain ⟨htyped, -, hplan⟩ := typed_search Pattern.isValid
  have hseven : Digits ['7'] := by decide
  have hmeaning : Denotes .integer (trimChars " +7 ".toList) (.int 7) :=
    .integer (IntegerLiteral.plus hseven) rfl
  refine ⟨((htyped .postgres "a" .integer " +7 " false).ok_iff _).2
      ⟨by decide, _, .equals hmeaning, rfl⟩,
    (htyped .mysql "a" .text "" true).empty_iff.2 rfl, _, rfl, hplan .mysql _ _ _ rfl, rfl⟩

end Predicate

end GridQuery
