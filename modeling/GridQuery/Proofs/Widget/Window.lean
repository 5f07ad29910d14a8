import GridQuery.Proofs.Json.Draft
import GridQuery.Proofs.Number.Integer
import GridQuery.Proofs.Plan.Integers
import GridQuery.Proofs.Program.Configured
import GridQuery.Widget.Query

/-!
# The window of rows that a body asks for

The start and the length of a body are integers of sixty-four bits with a sign, the offset and the
limit of a page have none, and what is bound has one again. The window is worked out here with such
words as well, where a conversion keeps the bits and would turn what is below zero into something
huge, and what is huge into something below zero. Both ways come to the same window, so no
conversion does.

Main result: `Body.page_window`.
-/

namespace GridQuery

/-- No number from zero on is below the range. -/
theorem clamp_signed64 {n : Int} (h : 0 ≤ n) :
    IntegerRange.signed64.clamp n = min n 0x7fffffffffffffff := by
  have hmin : IntegerRange.signed64.min = -0x8000000000000000 := rfl
  have hmax : IntegerRange.signed64.max = 0x7fffffffffffffff := rfl
  rw [IntegerRange.clamp, hmin, hmax, if_neg (by omega)]
  split <;> omega

/-! ## Words -/

namespace Words

/-- A word without a sign, kept as it is up to the greatest one with a sign. -/
def signed (n : UInt64) : Int64 :=
  if n ≤ Int64.maxValue.toUInt64 then n.toInt64 else Int64.maxValue

/-- The offset of a window: where it starts, but not before the first row. -/
def offset (start : Option Int64) : UInt64 :=
  let n := start.getD 0
  if n < 0 then 0 else n.toUInt64

def smaller (m n : UInt64) : UInt64 := if m ≤ n then m else n

/-- The limit of a window of this length. -/
def limit (length : Option Int64) (maxSize : UInt64) : UInt64 :=
  let n := match length with
    | some n => if 0 < n then smaller n.toUInt64 maxSize else maxSize
    | none => smaller 10 maxSize
  if n = 0 then 1 else n

theorem toNat_toUInt64 {n : Int64} (h : 0 ≤ n.toInt) : (n.toUInt64.toNat : Int) = n.toInt := by
  have hcases := n.toBitVec.toInt_eq_toNat_cond
  have hnat : n.toUInt64.toNat = n.toBitVec.toNat := rfl
  have hint : n.toInt = n.toBitVec.toInt := rfl
  omega

theorem toInt_toInt64 {n : UInt64} (h : n.toNat ≤ 0x7fffffffffffffff) :
    n.toInt64.toInt = n.toNat := by
  have hcases := n.toBitVec.toInt_eq_toNat_cond
  have hnat : n.toNat = n.toBitVec.toNat := rfl
  have hint : n.toInt64.toInt = n.toBitVec.toInt := rfl
  omega

theorem toInt_signed (n : UInt64) : (signed n).toInt = min (n.toNat : Int) 0x7fffffffffffffff := by
  have hmax : Int64.maxValue.toUInt64.toNat = 0x7fffffffffffffff := rfl
  unfold signed
  split
  · rename_i h
    rw [UInt64.le_iff_toNat_le, hmax] at h
    rw [toInt_toInt64 h]
    omega
  · rename_i h
    rw [UInt64.le_iff_toNat_le, hmax] at h
    have htop : Int64.maxValue.toInt = 0x7fffffffffffffff := rfl
    omega

theorem toNat_smaller (m n : UInt64) : (smaller m n).toNat = min m.toNat n.toNat := by
  unfold smaller
  split
  · rename_i h
    rw [UInt64.le_iff_toNat_le] at h
    omega
  · rename_i h
    rw [UInt64.le_iff_toNat_le] at h
    omega

theorem toNat_offset (start : Option Int64) :
    ((offset start).toNat : Int) = max ((start.map Int64.toInt).getD 0) 0 := by
  have hstart : (start.map Int64.toInt).getD 0 = (start.getD 0).toInt := by cases start <;> rfl
  have hzero : (0 : Int64).toInt = 0 := rfl
  rw [hstart]
  unfold offset
  simp only [Int64.lt_iff_toInt_lt, hzero]
  split
  · rename_i h
    have hword : (0 : UInt64).toNat = 0 := rfl
    omega
  · rename_i h
    rw [toNat_toUInt64 (by omega)]
    omega

/-- The rows that are asked for: as many as the length says if a page can have them, and else all
that it can have. -/
def rows (length : Option Int64) (maxSize : UInt64) : Int :=
  match length with
  | some n =>
    if 1 ≤ n.toInt ∧ n.toInt ≤ maxSize.toNat then n.toInt else maxSize.toNat
  | none => min 10 maxSize.toNat

theorem toNat_limit {maxSize : UInt64} (hmax : 1 ≤ maxSize) (length : Option Int64) :
    ((limit length maxSize).toNat : Int) = rows length maxSize := by
  have hone : (1 : UInt64).toNat = 1 := rfl
  have hten : (10 : UInt64).toNat = 10 := rfl
  have hzero : (0 : Int64).toInt = 0 := rfl
  rw [UInt64.le_iff_toNat_le, hone] at hmax
  have hraise (n : UInt64) (h : 1 ≤ n.toNat) : (if n = 0 then 1 else n) = n := by
    rw [if_neg]
    rintro rfl
    exact absurd h (by decide)
  unfold limit rows
  cases length with
  | none =>
    have hrows := toNat_smaller 10 maxSize
    rw [hten] at hrows
    simp only
    rw [hraise _ (by omega)]
    omega
  | some n =>
    simp only [Int64.lt_iff_toInt_lt, hzero]
    by_cases hpos : 0 < n.toInt
    · have hrows := toNat_smaller n.toUInt64 maxSize
      have hn := toNat_toUInt64 (Int.le_of_lt hpos)
      rw [if_pos hpos, hraise _ (by omega)]
      split <;> omega
    · rw [if_neg hpos, hraise _ hmax, if_neg (by omega)]

theorem rows_bounds {maxSize : UInt64} (hmax : 1 ≤ maxSize) (length : Option Int64) :
    1 ≤ rows length maxSize ∧ rows length maxSize ≤ maxSize.toNat := by
  have hone : (1 : UInt64).toNat = 1 := rfl
  rw [UInt64.le_iff_toNat_le, hone] at hmax
  unfold rows
  split
  · split <;> omega
  · omega

theorem start_le (start : Option Int64) :
    (start.map Int64.toInt).getD 0 ≤ 0x7fffffffffffffff := by
  cases start with
  | none => decide
  | some n =>
    have hn := n.toInt_lt
    simp only [Option.map_some, Option.getD_some]
    omega

/-- An integer that has sixty-four bits with a sign is a word. -/
theorem exists_toInt {n : Int} (h : IntegerRange.signed64.contains n = true) :
    ∃ w : Int64, w.toInt = n := by
  have hmin : IntegerRange.signed64.min = -2 ^ 63 := rfl
  have hmax : IntegerRange.signed64.max = 2 ^ 63 - 1 := rfl
  rw [IntegerRange.contains_iff] at h
  exact ⟨.ofInt n, Int64.toInt_ofInt_of_le (by omega) (by omega)⟩

/-- So is one without a sign. -/
theorem exists_toNat {n : Nat} (h : IntegerRange.unsigned64.contains n = true) :
    ∃ w : UInt64, w.toNat = n := by
  have hmax : IntegerRange.unsigned64.max = UInt64.size - 1 := rfl
  rw [IntegerRange.contains_iff] at h
  exact ⟨.ofNat n, UInt64.toNat_ofNat_of_lt' (by omega)⟩

end Words

/-! ## Bodies -/

namespace Widget

/-- What an integer of a body is read as has sixty-four bits with a sign. -/
theorem exists_word_of_integerOf {v : Json} {n : Option Int} (h : integerOf v = .ok n) :
    ∃ w : Option Int64, n = w.map Int64.toInt := by
  have hword {i : Int} (hi : IntegerRange.signed64.contains i = true) :
      ∃ w : Option Int64, some i = w.map Int64.toInt := by
    obtain ⟨w, hw⟩ := Words.exists_toInt hi
    exact ⟨some w, by rw [Option.map_some, hw]⟩
  have hnone : ∃ w : Option Int64, none = w.map Int64.toInt := ⟨none, rfl⟩
  unfold integerOf at h
  split at h
  · cases h
    exact hnone
  · rename_i number
    split at h
    · rename_i i hi
      cases h
      cases number with
      | int m =>
        rw [wholeNumber?] at hi
        split at hi
        · cases hi
          exact hword ‹_›
        · cases hi
      | double x => cases hi
    · cases h
  · split at h
    · cases h
      exact hnone
    · split at h
      · rename_i i hi
        cases h
        exact hword (IntegerRange.signed64_read?_eq_some_iff.1 hi).2
      · cases h
  · cases h

theorem keeps_valueField {σ α : Type} {p : σ → Prop} {name : String} {get : σ → Option α}
    {f : Json → Except DecodeFault α} {set : α → σ → σ}
    (h : ∀ v w e, p e → f v = .ok w → p (set w e)) : (valueField name get f set).Keeps p := by
  intro room doc e e' he hread
  change (do
    let v ← f (← doc.asJson room)
    return set v e) = Except.ok e' at hread
  cases hjson : doc.asJson room with
  | error fault =>
    rw [hjson] at hread
    cases hread
  | ok v =>
    cases hf : f v with
    | error fault =>
      simp only [hjson, hf, bind, Except.bind] at hread
      cases hread
    | ok w =>
      simp only [hjson, hf, bind, Except.bind, pure, Except.pure] at hread
      cases hread
      exact h v w e he hf

theorem keeps_formField {σ α : Type} {p : σ → Prop} {name : String} {get : σ → Option α}
    {f : Nat → Document → Except DecodeFault α} {set : α → σ → σ}
    (h : ∀ w e, p e → p (set w e)) : (formField name get f set).Keeps p := by
  intro room doc e e' he hread
  change (f room doc).map (fun v => set v e) = .ok e' at hread
  cases hf : f room doc with
  | error fault =>
    rw [hf] at hread
    cases hread
  | ok w =>
    rw [hf] at hread
    cases hread
    exact h w e he

namespace Body

/-- The start and the length of the body are these words. -/
structure Holds (b : Body) (start length : Option Int64) : Prop where
  start : b.start = start.map Int64.toInt
  length : b.length = length.map Int64.toInt

theorem exists_holds {room : Nat} {doc : Document} {b : Body} (h : read room doc = .ok b) :
    ∃ start length, b.Holds start length := by
  -- What is kept while the body is collected.
  let words (e : Draft) : Prop :=
    (∃ w : Option Int64, e.start.join = w.map Int64.toInt) ∧
      ∃ w : Option Int64, e.length.join = w.map Int64.toInt
  have hfields : ∀ f ∈ fields, f.Keeps words := by
    simp only [fields, List.forall_mem_cons, List.not_mem_nil, false_implies, implies_true,
      and_true]
    exact ⟨keeps_valueField fun _ _ _ he _ => he,
      keeps_valueField fun _ _ _ he hn => ⟨exists_word_of_integerOf hn, he.2⟩,
      keeps_valueField fun _ _ _ he hn => ⟨he.1, exists_word_of_integerOf hn⟩,
      keeps_formField fun _ _ he => he, keeps_formField fun _ _ he => he,
      keeps_formField fun _ _ he => he⟩
  unfold read at h
  cases hdraft : doc.asRecord "DataTablesRequest" fields ⟨none, none, none, none, none, none⟩
      room with
  | error fault =>
    rw [hdraft] at h
    cases h
  | ok e =>
    rw [hdraft] at h
    cases h
    obtain ⟨⟨start, hstart⟩, length, hlength⟩ :=
      Document.asRecord_keeps hfields (p := words) ⟨⟨none, rfl⟩, none, rfl⟩ hdraft
    exact ⟨start, length, hstart, hlength⟩

/-- The window of rows: its limit and its offset, worked out with integers and with words. No
conversion changes a number, and the last one cuts off what no word with a sign is. -/
structure Window (start length : Option Int64) (maxSize : UInt64) (limit offset : Int) : Prop where
  limit_pos : 1 ≤ limit
  limit_le : limit ≤ maxSize.toNat
  limit_eq : limit = min (Words.rows length maxSize) 0x7fffffffffffffff
  limit_kept : ((Words.limit length maxSize).toNat : Int) = Words.rows length maxSize
  limit_bound : (Words.signed (Words.limit length maxSize)).toInt = limit
  offset_eq : offset = max ((start.map Int64.toInt).getD 0) 0
  offset_kept : ((Words.offset start).toNat : Int) = offset
  offset_bound : (Words.signed (Words.offset start)).toInt = offset

theorem window {maxSize : UInt64} (hmax : 1 ≤ maxSize) (start length : Option Int64) :
    Window start length maxSize (min (Words.rows length maxSize) 0x7fffffffffffffff)
      (max ((start.map Int64.toInt).getD 0) 0) := by
  have hrows := Words.rows_bounds hmax length
  have hlimit := Words.toNat_limit hmax length
  have hoffset := Words.toNat_offset start
  have htop := Words.start_le start
  refine ⟨by omega, by omega, rfl, hlimit, ?_, rfl, hoffset, ?_⟩
  · rw [Words.toInt_signed, hlimit]
  · rw [Words.toInt_signed, hoffset]
    omega

/-- The page of a body is the window worked out with words. -/
theorem page_eq {b : Body} {start length : Option Int64} (h : b.Holds start length)
    {maxSize : UInt64} (hmax : 1 ≤ maxSize) :
    b.page maxSize.toNat =
      .of (Words.offset start).toNat (Words.limit length maxSize).toNat := by
  have hlimit := Words.toNat_limit hmax length
  have hoffset := Words.toNat_offset start
  have hten : Page.first.limit = 10 := rfl
  rw [page, h.start, h.length]
  congr 1
  · omega
  · cases length with
    | none =>
      simp only [Words.rows] at hlimit
      simp only [Option.map_none, hten]
      omega
    | some n =>
      simp only [Words.rows] at hlimit
      simp only [Option.map_some]
      split <;> split at hlimit <;> omega

/-- The last two values that a page of the body binds. -/
theorem values_window {start length : Option Int64} {maxSize : UInt64} (hmax : 1 ≤ maxSize)
    {b : Body} (hb : b.Holds start length) (v : View) {d : Dialect} {schema : Schema} {p : Plan}
    (h : Plan.ofRequest d (b.request v maxSize.toNat) schema = .ok p) :
    p.data.values = p.filteredCount.values ++
      [.int (min (Words.rows length maxSize) 0x7fffffffffffffff),
        .int (max ((start.map Int64.toInt).getD 0) 0)] := by
  have hrows := Words.rows_bounds hmax length
  have hlimit := Words.toNat_limit hmax length
  have hoffset := Words.toNat_offset start
  have htop := Words.start_le start
  have hraised : ((max (Words.limit length maxSize).toNat 1 : Nat) : Int) =
      Words.rows length maxSize := by omega
  rw [(Plan.bindsInOrder h).page _ _ (page_eq hb hmax), hraised, hoffset,
    clamp_signed64 (by omega), clamp_signed64 (by omega)]
  congr 4
  omega

end Body

end Widget

/-! ## Settings -/

/-- The greatest number of rows of a page is a word and not zero. -/
theorem ServiceSettings.exists_maxPageSize {env : Environment} {s : ServiceSettings}
    (h : ofEnvironment env = .ok s) : ∃ n : UInt64, 1 ≤ n ∧ s.maxPageSize = n.toNat := by
  have hs := (exact_ofEnvironment env).configured s h
  have hmost : s.maxPageSize ≤ 0xffffffffffffffff := hs.pageSize.le_most (by decide)
  have hrange : IntegerRange.unsigned64.contains s.maxPageSize = true :=
    IntegerRange.contains_iff.2 ⟨Int.natCast_nonneg _, Int.ofNat_le.2 hmost⟩
  obtain ⟨n, hn⟩ := Words.exists_toNat hrange
  refine ⟨n, ?_, hn.symm⟩
  have hone : (1 : UInt64).toNat = 1 := rfl
  rw [UInt64.le_iff_toNat_le, hone, hn]
  exact hs.one_le_pageSize

namespace Widget.Body

/-- **A body asks for a window of at least one row and of at most as many as a page can have.** The
start and the length of every body are words with a sign, and the greatest number of rows that is
configured is one without. -/
theorem page_window :
    (∀ (start length : Option Int64) (maxSize : UInt64) (b : Body), 1 ≤ maxSize →
      b.Holds start length → ∀ (v : View) (d : Dialect) (schema : Schema) (p : Plan),
        Plan.ofRequest d (b.request v maxSize.toNat) schema = .ok p →
        ∃ before limit offset, p.data.values = before ++ [.int limit, .int offset] ∧
          Window start length maxSize limit offset) ∧
    (∀ (text : String) (b : Body), Document.decodeStart read text = .ok b →
      ∃ start length, b.Holds start length) ∧
    ∀ (env : Environment) (s : ServiceSettings), ServiceSettings.ofEnvironment env = .ok s →
      ∃ n : UInt64, 1 ≤ n ∧ s.maxPageSize = n.toNat :=
  ⟨fun start length _ _ hmax hb v _ _ _ h =>
      ⟨_, _, _, values_window hmax hb v h, window hmax start length⟩,
    fun _ _ => exists_holds, fun _ _ => ServiceSettings.exists_maxPageSize⟩

/-- A body that starts before all rows and asks for as many as a word with a sign can count. -/
def boundless : Body where
  draw := .null
  start := some (-0x8000000000000000)
  length := some 0x7fffffffffffffff
  search := .empty
  columns := []
  order := []

def boundlessText : String :=
  "\x7b\"start\": \"-9223372036854775808\", \"length\": 9223372036854775807\x7d"

theorem decodeStart_boundlessText :
    (Document.decodeStart read boundlessText).toOption.any
      (fun b => b.start == boundless.start && b.length == boundless.length) = true := by
  decide +kernel

def plainView : View := ⟨"v", "t", [⟨"a", "a", true, true, none⟩], .none⟩

/-- Pages may have as many rows as a word without a sign can count. -/
def generous : Environment := fun name =>
  if name = "MAX_PAGE_SIZE" then some "18446744073709551615" else none

theorem page_window_boundless :
    (∃ p before, Plan.ofRequest .mysql (boundless.request plainView 0xffffffffffffffff)
        [⟨"a", "text", .text⟩] = .ok p ∧
      p.data.values = before ++ [.int 0x7fffffffffffffff, .int 0]) ∧
    (∃ b start length, Document.decodeStart read boundlessText = .ok b ∧ b.Holds start length) ∧
    ∃ s, ServiceSettings.ofEnvironment generous = .ok s ∧ 1 ≤ s.maxPageSize := by
  obtain ⟨hwindow, hbodies, hsettings⟩ := page_window
  have hplan : ∃ p, Plan.ofRequest .mysql (boundless.request plainView 0xffffffffffffffff)
      [⟨"a", "text", .text⟩] = .ok p := ⟨_, rfl⟩
  have henv : ∃ s, ServiceSettings.ofEnvironment generous = .ok s := ⟨_, rfl⟩
  have hbody : ∃ b, Document.decodeStart read boundlessText = .ok b := by
    have hread := decodeStart_boundlessText
    cases hb : Document.decodeStart read boundlessText with
    | error f => simp [hb, Except.toOption] at hread
    | ok b => exact ⟨b, rfl⟩
  obtain ⟨p, hp⟩ := hplan
  obtain ⟨s, hs⟩ := henv
  obtain ⟨b, hb⟩ := hbody
  obtain ⟨start, length, hwords⟩ := hbodies _ b hb
  have hholds : boundless.Holds (some Int64.minValue) (some Int64.maxValue) := ⟨rfl, rfl⟩
  obtain ⟨before, limit, offset, hvalues, hw⟩ :=
    hwindow _ _ 0xffffffffffffffff boundless (by decide) hholds plainView .mysql _ p hp
  obtain ⟨n, hn, hsize⟩ := hsettings generous s hs
  have hlimit : limit = 0x7fffffffffffffff := hw.limit_eq
  have hoffset : offset = 0 := hw.offset_eq
  rw [UInt64.le_iff_toNat_le] at hn
  exact ⟨⟨p, before, hp, hlimit ▸ hoffset ▸ hvalues⟩, ⟨b, start, length, hb, hwords⟩, s, hs,
    hsize ▸ hn⟩

end Widget.Body

end GridQuery
