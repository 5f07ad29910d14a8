import GridQuery.Http.Server
import GridQuery.Proofs.Text.Bytes
import Mathlib.Data.List.TakeWhile

/-!
# Names in paths

Every name can be asked for. With a percent sign and two digits for each of its bytes it is a
segment that stands for the name, and no character of it ends the segment or the path.

Main results: `decodeSegment_segmentOf` and `routeOf?_schemaPath`.
-/

namespace GridQuery.Http

/-- The digit of a number below sixteen. -/
def hexDigit (n : Nat) : Char := Char.ofNat (if n < 10 then 0x30 + n else 0x37 + n)

/-- A byte as a percent sign and its two digits. -/
def escapeByte (b : UInt8) : List Char :=
  ['%', hexDigit (b.toNat / 16), hexDigit (b.toNat % 16)]

/-- The name with all of its bytes as digits. -/
def segmentOf (name : String) : String := String.ofList ((Text.bytes name).flatMap escapeByte)

/-! ## Digits -/

/-- A digit is one byte, which is read as the number. -/
theorem hexByte?_hexDigit :
    ∀ n < 16, (String.utf8EncodeChar (hexDigit n)).map hexByte? = [some (UInt8.ofNat n)] := by
  decide

theorem hexDigit_ne : ∀ n < 16, hexDigit n ≠ '/' ∧ hexDigit n ≠ '?' ∧ hexDigit n ≠ '#' := by
  decide

/-- The bytes of an escaped byte are read as that byte. -/
theorem decodeBytes_escapeByte (b : UInt8) (rest : List UInt8) :
    decodeBytes ((escapeByte b).flatMap String.utf8EncodeChar ++ rest) = b :: decodeBytes rest := by
  have hb : b.toNat < 256 := b.toNat_lt
  have hhigh := hexByte?_hexDigit (b.toNat / 16) (by omega)
  have hlow := hexByte?_hexDigit (b.toNat % 16) (by omega)
  obtain ⟨x, xs, hx, hxdigit, hxs⟩ := List.map_eq_cons_iff.1 hhigh
  obtain ⟨y, ys, hy, hydigit, hys⟩ := List.map_eq_cons_iff.1 hlow
  obtain rfl := List.map_eq_nil_iff.1 hxs
  obtain rfl := List.map_eq_nil_iff.1 hys
  have hpercent : String.utf8EncodeChar '%' = [0x25] := rfl
  have hsum : UInt8.ofNat (b.toNat / 16) * 16 + UInt8.ofNat (b.toNat % 16) = b := by
    have hsixteen : (16 : UInt8).toNat = 16 := rfl
    apply UInt8.toNat_inj.1
    simp only [UInt8.toNat_add, UInt8.toNat_mul, UInt8.toNat_ofNat', hsixteen]
    omega
  simp only [escapeByte, List.flatMap_cons, List.flatMap_nil, hpercent, hx, hy, List.cons_append,
    List.nil_append, List.append_nil]
  rw [decodeBytes, hxdigit, hydigit]
  simp only [hsum]

/-- **The segment of a name stands for the name.** -/
theorem decodeSegment_segmentOf (name : String) : decodeSegment (segmentOf name) = some name := by
  have hdecoded (bs : List UInt8) :
      decodeBytes ((bs.flatMap escapeByte).flatMap String.utf8EncodeChar) = bs := by
    induction bs with
    | nil => rfl
    | cons b bs ih =>
      rw [List.flatMap_cons, List.flatMap_append, decodeBytes_escapeByte, ih]
  have hbytes : (segmentOf name).toUTF8.toList =
      ((Text.bytes name).flatMap escapeByte).flatMap String.utf8EncodeChar := Text.bytes_ofList _
  have hvalid : (ByteArray.mk name.toUTF8.data).IsValidUTF8 := name.isValidUTF8
  rw [decodeSegment, hbytes, hdecoded, Text.bytes, Text.toList_eq, Array.toArray_toList,
    String.fromUTF8?, dif_pos hvalid]
  rfl

/-! ## Paths -/

theorem forall_mem_segmentOf {name : String} {p : Char → Prop} (hpercent : p '%')
    (hdigit : ∀ n < 16, p (hexDigit n)) : ∀ c ∈ (segmentOf name).toList, p c := by
  intro c hc
  rw [segmentOf, String.toList_ofList, List.mem_flatMap] at hc
  obtain ⟨b, -, hc⟩ := hc
  have hb : b.toNat < 256 := b.toNat_lt
  simp only [escapeByte, List.mem_cons, List.not_mem_nil, or_false] at hc
  rcases hc with rfl | rfl | rfl
  · exact hpercent
  · exact hdigit _ (by omega)
  · exact hdigit _ (by omega)

theorem segmentOf_ne_empty {name : String} (h : name ≠ "") : (segmentOf name).isEmpty = false := by
  rw [String.isEmpty_eq_false_iff]
  intro hempty
  have hdecoded := decodeSegment_segmentOf name
  rw [hempty] at hdecoded
  have hnothing : decodeSegment "" = some "" := by decide +kernel
  exact h (Option.some.inj (hdecoded.symm.trans hnothing))

theorem splitSegments_cons {c : Char} {cs : List Char} (h : c ≠ '/') {segment : List Char}
    {rest : List (List Char)} (hcs : splitSegments cs = segment :: rest) :
    splitSegments (c :: cs) = (c :: segment) :: rest := by
  rw [splitSegments, hcs]
  exact h

/-- A segment ends where the path ends. -/
theorem splitSegments_alone {cs : List Char} (h : ∀ c ∈ cs, c ≠ '/') : splitSegments cs = [cs] := by
  induction cs with
  | nil => rfl
  | cons c cs ih =>
    rw [List.forall_mem_cons] at h
    exact splitSegments_cons h.1 (ih h.2)

/-- A segment ends at a slash. -/
theorem splitSegments_slash {cs : List Char} (h : ∀ c ∈ cs, c ≠ '/') (rest : List Char) :
    splitSegments (cs ++ '/' :: rest) = cs :: splitSegments rest := by
  induction cs with
  | nil => rfl
  | cons c cs ih =>
    rw [List.forall_mem_cons] at h
    exact splitSegments_cons h.1 (ih h.2)

/-- The path of the columns of the view that is asked for by a name. -/
def schemaPath (name : String) : String := "/api/views/" ++ segmentOf name ++ "/schema"

/-- The segment of a name ends where something else begins. -/
theorem segments_views (name : String) {tail : List Char} (htail : ∀ c ∈ tail, c ≠ '?' ∧ c ≠ '#') :
    segments ("/api/views/" ++ segmentOf name ++ String.ofList tail) =
      "api" :: "views" :: (splitSegments ((segmentOf name).toList ++ tail)).map String.ofList := by
  have hsegment : ∀ c ∈ (segmentOf name).toList, c ≠ '?' ∧ c ≠ '#' :=
    forall_mem_segmentOf (by decide) fun n hn => (hexDigit_ne n hn).2
  have hviewsRoot : ∀ c ∈ "/api/views/".toList, (c != '?' && c != '#') = true :=
    List.all_eq_true.1 (by decide)
  -- Nothing in the path begins a query or a fragment, so all of it is cut at its slashes.
  have hpath : pathOnly ("/api/views/" ++ segmentOf name ++ String.ofList tail) =
      "/api/views/".toList ++ ((segmentOf name).toList ++ tail) := by
    simp only [pathOnly, String.toList_append, String.toList_ofList, List.append_assoc]
    rw [List.takeWhile_eq_self_iff]
    intro c hc
    rcases List.mem_append.1 hc with hc | hc
    · exact hviewsRoot c hc
    · rcases List.mem_append.1 hc with hc | hc
      · simpa using hsegment c hc
      · simpa using htail c hc
  have hviews : "/api/views/".toList ++ ((segmentOf name).toList ++ tail) =
      '/' :: (['a', 'p', 'i'] ++ '/' ::
        (['v', 'i', 'e', 'w', 's'] ++ '/' :: ((segmentOf name).toList ++ tail))) := rfl
  rw [segments, hpath, hviews]
  simp only
  rw [splitSegments_slash (by simp), splitSegments_slash (by simp)]
  rfl

section Routes

variable {name : String}

theorem segmentOf_ne_slash : ∀ c ∈ (segmentOf name).toList, c ≠ '/' :=
  forall_mem_segmentOf (by decide) fun n hn => (hexDigit_ne n hn).1

theorem routeOf?_schemaPath (h : name ≠ "") :
    routeOf? (schemaPath name) = some (.schema (segmentOf name)) := by
  have hsegments : segments (schemaPath name) = ["api", "views", segmentOf name, "schema"] := by
    have htail : ∀ c ∈ "/schema".toList, c ≠ '?' ∧ c ≠ '#' := by simp
    have hviews := segments_views name htail
    have hschema : "/schema".toList = '/' :: ['s', 'c', 'h', 'e', 'm', 'a'] := rfl
    rw [String.ofList_toList, hschema, splitSegments_slash segmentOf_ne_slash,
      splitSegments_alone (by simp)] at hviews
    rw [schemaPath, hviews, List.map_cons, List.map_singleton, String.ofList_toList]
  rw [routeOf?, hsegments]
  simp only [segmentOf_ne_empty h, Bool.false_eq_true, if_false]

end Routes

end GridQuery.Http
