import GridQuery.Proofs.Json.Rewritten
import GridQuery.Proofs.Plan.TypedTerms
import GridQuery.Widget.Query

/-!
# Scalars and the texts that stand for them

The widget may send a number or a truth value as such or as text, and may send null for what it does
not say. A body is read alike from both: each scalar has the same value in all of its forms, and a
scalar that is null is what it is without a word about it. So the bodies that are read differ in
nothing but the part that is sent back as it came.

Main result: `Body.forms_ask_same`.
-/

namespace GridQuery.Widget

open Text Document

/-! ## Scalars -/

/-- A number or a truth value may be written as its text. -/
inductive TextForm : Document → Document → Prop
  | same (d : Document) : TextForm d d
  | number (n : Number) : TextForm (.number (some n)) (.string (some n.text))
  | bool (b : Bool) : TextForm (.bool b) (.string (some (if b then "true" else "false")))

/-- A truth value may be written as a word for it between blanks. -/
inductive TruthForm : Document → Document → Prop
  | same (d : Document) : TruthForm d d
  | word {b : Bool} {before word after : List Char} (hbefore : Blanks before)
      (hafter : Blanks after) (hword : BooleanWord word b) :
      TruthForm (.bool b) (.string (some (.ofList (before ++ word ++ after))))

/-- An integer may be written as its digits between blanks. -/
inductive IntegerForm : Document → Document → Prop
  | same (d : Document) : IntegerForm d d
  | digits (n : Int) {before after : List Char} (hbefore : Blanks before) (hafter : Blanks after) :
      IntegerForm (.number (some (.int n)))
        (.string (some (.ofList (before ++ (toString n).toList ++ after))))

/-- The value that is read of a document. -/
def valueOf {α : Type} (f : Json → Except DecodeFault α) (room : Nat) (d : Document) :
    Except DecodeFault α :=
  (d.asJson room).bind f

/-- No word for a truth value has a blank in it. -/
theorem tight_of_booleanWord {word : List Char} {b : Bool} (h : BooleanWord word b) :
    Tight word := by
  have hlower {plain : List Char} (hplain : plain.any isBlank = false)
      (h : word.map Char.toLower = plain) : Tight word := by
    refine .of_forall fun c hc => ?_
    have hmem : c.toLower ∈ plain := h ▸ List.mem_map_of_mem hc
    cases hblank : isBlank c with
    | false => rfl
    | true =>
      rw [toLower_of_isBlank hblank] at hmem
      exact absurd hblank (List.any_eq_false.1 hplain c hmem)
  cases h with
  | word_true h => exact hlower (by decide) h
  | digit_true => exact hlower (by decide) rfl
  | word_false h => exact hlower (by decide) h
  | digit_false => exact hlower (by decide) rfl

/-- A text that means a truth value when it is searched for means it here. -/
theorem boolOf_of_readBool {s : String} {b : Bool} (h : TermTest.readBool s = some b) :
    boolOf (.string s) = .ok (some b) := by
  unfold TermTest.readBool at h
  split at h
  case h_5 => cases h
  all_goals
    rename_i heq
    cases h
    simp only [boolOf, heq]

/-- A word for a truth value is read as this value. -/
theorem boolOf_word {before word after : List Char} (hbefore : Blanks before)
    (hafter : Blanks after) {b : Bool} (h : BooleanWord word b) :
    boolOf (.string (.ofList (before ++ word ++ after))) = .ok (some b) := by
  apply boolOf_of_readBool
  rw [TermTest.readBool_eq_some_iff, String.toList_ofList,
    trimChars_between hbefore hafter (tight_of_booleanWord h)]
  exact h

/-- The digits of an integer are read as the integer. -/
theorem integerOf_digits {n : Int} (hn : IntegerRange.signed64.contains n = true)
    {before after : List Char} (hbefore : Blanks before) (hafter : Blanks after) :
    integerOf (.string (.ofList (before ++ (toString n).toList ++ after))) = .ok (some n) := by
  have hliteral := IntegerLiteral.of_toString n
  have htight : Tight (toString n).toList := .of_forall hliteral.not_blank
  have hblank : allBlank (.ofList (before ++ (toString n).toList ++ after)) = false := by
    obtain ⟨c, hc⟩ := List.exists_mem_of_ne_nil _ hliteral.ne_nil
    refine allBlank_eq_false_iff.2 ⟨c, ?_, hliteral.not_blank c hc⟩
    rw [String.toList_ofList]
    exact List.mem_append_left _ (List.mem_append_right _ hc)
  have hread :
      IntegerRange.signed64.read? (trim (.ofList (before ++ (toString n).toList ++ after))) =
        some n := by
    rw [IntegerRange.signed64_read?_eq_some_iff, trim, String.toList_ofList, String.toList_ofList,
      trimChars_between hbefore hafter htight]
    exact ⟨hliteral, hn⟩
  simp only [integerOf, hblank, hread, Bool.false_eq_true, if_false]

section Scalars

variable {α : Type} {f : Json → Except DecodeFault α} {room : Nat}

theorem valueOf_string (s : String) : valueOf f room (.string (some s)) = f (.string s) := rfl

theorem valueOf_number (n : Number) : valueOf f room (.number (some n)) = f (.number n) := rfl

theorem valueOf_bool (b : Bool) : valueOf f room (.bool b) = f (.bool b) := rfl

/-- The forms of a scalar are read alike. -/
def Alike (f : Json → Except DecodeFault α) (rel : Document → Document → Prop) : Prop :=
  ∀ room d d' a, rel d d' → valueOf f room d = .ok a → valueOf f room d' = .ok a

theorem alike_textOf : Alike textOf TextForm := by
  intro room d d' a h hread
  cases h with
  | same => exact hread
  | number n => exact hread
  | bool b => exact hread

theorem alike_boolOf : Alike boolOf TruthForm := by
  intro room d d' a h hread
  cases h with
  | same => exact hread
  | word hbefore hafter hword =>
    rw [valueOf_bool] at hread
    rw [valueOf_string, boolOf_word hbefore hafter hword]
    exact hread

theorem alike_integerOf : Alike integerOf IntegerForm := by
  intro room d d' a h hread
  cases h with
  | same => exact hread
  | digits n hbefore hafter =>
    rw [valueOf_number] at hread
    cases hn : IntegerRange.signed64.contains n with
    | false => simp [integerOf, wholeNumber?, hn] at hread
    | true =>
      simp only [integerOf, wholeNumber?, hn, if_true] at hread
      rw [valueOf_string, integerOf_digits hn hbefore hafter]
      exact hread

end Scalars

/-! ## Fields -/

section Fields

variable {σ α : Type} {r : σ → σ → Prop} {name : String} {get : σ → Option α}
  {set : α → σ → σ} {rel : Document → Document → Prop}

theorem read_valueField {f : Json → Except DecodeFault α} {room : Nat} {d : Document} {e : σ} :
    (valueField name get f set).read room d e = (valueOf f room d).map fun a => set a e := by
  rw [valueOf]
  change (do
    let a ← f (← d.asJson room)
    return set a e) = _
  cases d.asJson room with
  | error fault => rfl
  | ok v => cases hv : f v <;> simp [hv, bind, Except.bind, Except.map, pure, Except.pure]

/-- A field that is read as a value first follows the forms of its member, if values that may be
read of them are set alike, and null is read as if there was nothing. -/
theorem follows_valueField {f : Json → Except DecodeFault α} {q : α → α → Prop} {nothing : α}
    (hvalue : ∀ room d d' a, rel d d' → valueOf f room d = .ok a →
      ∃ a', valueOf f room d' = .ok a' ∧ q a a')
    (hnull : f .null = .ok nothing) (hget : ∀ e e', r e e' → get e = none → get e' = none)
    (hset : ∀ a a' e e', q a a' → r e e' → r (set a e) (set a' e'))
    (hdrop : ∀ e e', r e e' → get e = none → r (set nothing e) e') :
    (valueField name get f set).Follows r ⟨name, rel⟩ := by
  refine ⟨rfl, rfl, fun e e' he hopen => ?_, fun room d d' e e' draft hd he hread => ?_,
    fun room e e' draft he hopen hread => ?_⟩
  · exact Option.isSome_eq_false_iff.2 (Option.isNone_iff_eq_none.2
      (hget e e' he (Option.isNone_iff_eq_none.1 (Option.isSome_eq_false_iff.1 hopen))))
  · rw [read_valueField] at hread
    obtain ⟨a, ha, rfl⟩ := map_eq_ok_iff.1 hread
    obtain ⟨a', ha', hq⟩ := hvalue room d d' a hd ha
    exact ⟨set a' e', by rw [read_valueField, ha']; rfl, hset a a' e e' hq he⟩
  · have hnothing : valueOf f room .null = .ok nothing := hnull
    rw [read_valueField, hnothing] at hread
    cases hread
    exact hdrop e e' he (Option.isNone_iff_eq_none.1 (Option.isSome_eq_false_iff.1 hopen))

/-- A field with a form of its own follows the forms of its member, if they are read alike and are
never null. -/
theorem follows_formField {f : Nat → Document → Except DecodeFault α}
    (hvalue : ∀ room d d' a, rel d d' → f room d = .ok a → f room d' = .ok a)
    (hnull : ∀ room a, f room .null ≠ .ok a) (hget : ∀ e e', r e e' → get e' = get e)
    (hset : ∀ a e e', r e e' → r (set a e) (set a e')) :
    (formField name get f set).Follows r ⟨name, rel⟩ := by
  have hread_eq (room : Nat) (d : Document) (e : σ) :
      (formField name get f set).read room d e = (f room d).map fun a => set a e := rfl
  refine ⟨rfl, rfl, fun e e' he hopen => ?_, fun room d d' e e' draft hd he hread => ?_,
    fun room e e' draft _ _ hread => ?_⟩
  · show (get e').isSome = false
    rw [hget e e' he]
    exact hopen
  · rw [hread_eq] at hread
    obtain ⟨a, ha, rfl⟩ := map_eq_ok_iff.1 hread
    exact ⟨set a e', by rw [hread_eq, hvalue room d d' a hd ha]; rfl, hset a e e' he⟩
  · rw [hread_eq] at hread
    obtain ⟨a, ha, -⟩ := map_eq_ok_iff.1 hread
    exact absurd ha (hnull room a)

end Fields

/-- Two slots of a draft: filled alike, or one with nothing and the other not at all. -/
def Slot {α : Type} (x x' : Option (Option α)) : Prop := x' = x ∨ x = some none ∧ x' = none

namespace Slot

variable {α : Type} {x x' : Option (Option α)}

theorem join (h : Slot x x') : x'.join = x.join := by
  rcases h with rfl | ⟨rfl, rfl⟩
  · rfl
  · rfl

theorem eq_none (h : Slot x x') (hx : x = none) : x' = none := by
  rcases h with rfl | ⟨rfl, -⟩
  · exact hx
  · cases hx

/-- What is not said is read as null. -/
theorem dropped (h : Slot x x') (hx : x = none) : Slot (some none) x' := .inr ⟨rfl, h.eq_none hx⟩

end Slot

/-- A scalar field follows the forms of its scalar. -/
theorem follows_scalar {σ α : Type} {r : σ → σ → Prop} {name : String}
    {get : σ → Option (Option α)} {set : Option α → σ → σ} {rel : Document → Document → Prop}
    {f : Json → Except DecodeFault (Option α)} (halike : Alike f rel) (hnull : f .null = .ok none)
    (hget : ∀ e e', r e e' → Slot (get e) (get e'))
    (hset : ∀ a e e', r e e' → r (set a e) (set a e'))
    (hdrop : ∀ e e', r e e' → Slot (some none) (get e') → r (set none e) e') :
    (valueField name get f set).Follows r ⟨name, rel⟩ := by
  refine follows_valueField (q := Eq) (fun room d d' a hd ha => ⟨a, halike room d d' a hd ha, rfl⟩)
    hnull (fun e e' he hopen => (hget e e' he).eq_none hopen) ?_
    (fun e e' he hopen => hdrop e e' he ((hget e e' he).dropped hopen))
  rintro a _ e e' rfl he
  exact hset a e e' he

/-! ## Parts of a body -/

/-- A list in two forms, which differ in any of its items. -/
inductive Listed (rel : Document → Document → Prop) : Document → Document → Prop
  | same (d : Document) : Listed rel d d
  | items {ds ds' : List Document} {closed : Bool} (h : List.Forall₂ rel ds ds') :
      Listed rel (.array ds closed) (.array ds' closed)

theorem asList_listed {α : Type} {rel : Document → Document → Prop}
    {f : Nat → Document → Except DecodeFault α}
    (hf : ∀ room d d' a, rel d d' → f room d = .ok a → f room d' = .ok a) (room : Nat)
    (d d' : Document) (values : List α) (h : Listed rel d d')
    (hread : d.asList f room = .ok values) : d'.asList f room = .ok values := by
  cases h with
  | same => exact hread
  | items h => exact asList_rewritten hf h hread

namespace SearchBox

/-- The forms of a search box: its value and whether it is a pattern. -/
def forms : List Form := [⟨"value", TextForm⟩, ⟨"regex", TruthForm⟩]

structure Draft.Matches (e e' : Draft) : Prop where
  value : Slot e.value e'.value
  regex : Slot e.regex e'.regex

theorem follows : List.Forall₂ (Field.Follows Draft.Matches) fields forms := by
  refine .cons ?_ (.cons ?_ .nil)
  · exact follows_scalar alike_textOf rfl (fun _ _ h => h.value)
      (fun _ _ _ h => { h with value := .inl rfl }) fun _ _ h hslot => { h with value := hslot }
  · exact follows_scalar alike_boolOf rfl (fun _ _ h => h.regex)
      (fun _ _ _ h => { h with regex := .inl rfl }) fun _ _ h hslot => { h with regex := hslot }

theorem read_rewritten (room : Nat) (d d' : Document) (s : SearchBox) (h : Rewritten forms d d')
    (hread : read room d = .ok s) : read room d' = .ok s := by
  refine map_asRecord_rewritten follows (fun _ => ⟨.inl rfl, .inl rfl⟩) (fun e e' h => ?_) h hread
  rw [h.value.join, h.regex.join]

/-- A search box is never null. -/
theorem read_null (room : Nat) (s : SearchBox) : read room .null ≠ .ok s := nofun

end SearchBox

namespace BodyColumn

def forms : List Form :=
  [⟨"data", TextForm⟩, ⟨"name", TextForm⟩, ⟨"searchable", TruthForm⟩, ⟨"orderable", TruthForm⟩,
    ⟨"search", Rewritten SearchBox.forms⟩]

structure Draft.Matches (e e' : Draft) : Prop where
  data : Slot e.data e'.data
  name : Slot e.name e'.name
  searchable : Slot e.searchable e'.searchable
  orderable : Slot e.orderable e'.orderable
  search : e'.search = e.search

theorem follows : List.Forall₂ (Field.Follows Draft.Matches) fields forms := by
  refine .cons ?_ (.cons ?_ (.cons ?_ (.cons ?_ (.cons ?_ .nil))))
  · exact follows_scalar alike_textOf rfl (fun _ _ h => h.data)
      (fun _ _ _ h => { h with data := .inl rfl }) fun _ _ h hslot => { h with data := hslot }
  · exact follows_scalar alike_textOf rfl (fun _ _ h => h.name)
      (fun _ _ _ h => { h with name := .inl rfl }) fun _ _ h hslot => { h with name := hslot }
  · exact follows_scalar alike_boolOf rfl (fun _ _ h => h.searchable)
      (fun _ _ _ h => { h with searchable := .inl rfl })
      fun _ _ h hslot => { h with searchable := hslot }
  · exact follows_scalar alike_boolOf rfl (fun _ _ h => h.orderable)
      (fun _ _ _ h => { h with orderable := .inl rfl })
      fun _ _ h hslot => { h with orderable := hslot }
  · exact follows_formField SearchBox.read_rewritten SearchBox.read_null (fun _ _ h => h.search)
      fun _ _ _ h => { h with search := rfl }

theorem read_rewritten (room : Nat) (d d' : Document) (c : BodyColumn) (h : Rewritten forms d d')
    (hread : read room d = .ok c) : read room d' = .ok c := by
  refine map_asRecord_rewritten follows
    (fun _ => ⟨.inl rfl, .inl rfl, .inl rfl, .inl rfl, rfl⟩) (fun e e' h => ?_) h hread
  rw [h.data.join, h.name.join, h.searchable.join, h.orderable.join, h.search]

end BodyColumn

namespace BodyOrder

def forms : List Form := [⟨"column", IntegerForm⟩, ⟨"dir", TextForm⟩]

structure Draft.Matches (e e' : Draft) : Prop where
  column : Slot e.column e'.column
  direction : Slot e.direction e'.direction

theorem follows : List.Forall₂ (Field.Follows Draft.Matches) fields forms := by
  refine .cons ?_ (.cons ?_ .nil)
  · exact follows_scalar alike_integerOf rfl (fun _ _ h => h.column)
      (fun _ _ _ h => { h with column := .inl rfl }) fun _ _ h hslot => { h with column := hslot }
  · exact follows_scalar alike_textOf rfl (fun _ _ h => h.direction)
      (fun _ _ _ h => { h with direction := .inl rfl })
      fun _ _ h hslot => { h with direction := hslot }

theorem read_rewritten (room : Nat) (d d' : Document) (o : BodyOrder) (h : Rewritten forms d d')
    (hread : read room d = .ok o) : read room d' = .ok o := by
  refine map_asRecord_rewritten follows (fun _ => ⟨.inl rfl, .inl rfl⟩) (fun e e' h => ?_) h hread
  rw [h.column.join, h.direction.join]

end BodyOrder

namespace Body

def forms : List Form :=
  [⟨"draw", Thinned⟩, ⟨"start", IntegerForm⟩, ⟨"length", IntegerForm⟩,
    ⟨"search", Rewritten SearchBox.forms⟩, ⟨"columns", Listed (Rewritten BodyColumn.forms)⟩,
    ⟨"order", Listed (Rewritten BodyOrder.forms)⟩]

structure Draft.Matches (e e' : Draft) : Prop where
  draw : e.draw = none → e'.draw = none
  start : Slot e.start e'.start
  length : Slot e.length e'.length
  search : e'.search = e.search
  columns : e'.columns = e.columns
  order : e'.order = e.order

theorem follows : List.Forall₂ (Field.Follows Draft.Matches) fields forms := by
  refine .cons ?_ (.cons ?_ (.cons ?_ (.cons ?_ (.cons ?_ (.cons ?_ .nil)))))
  · refine follows_valueField (q := fun _ _ => True) (fun room d d' v hd hv => ?_) rfl
      (fun _ _ h => h.draw) (fun _ _ _ _ _ h => { h with draw := nofun })
      fun _ _ h _ => { h with draw := nofun }
    have hjson (d : Document) : valueOf .ok room d = d.asJson room := by
      rw [valueOf]
      cases d.asJson room <;> rfl
    rw [hjson] at hv ⊢
    obtain ⟨v', hv'⟩ := Thinned.asJson d hd hv
    exact ⟨v', hv', trivial⟩
  · exact follows_scalar alike_integerOf rfl (fun _ _ h => h.start)
      (fun _ _ _ h => { h with start := .inl rfl }) fun _ _ h hslot => { h with start := hslot }
  · exact follows_scalar alike_integerOf rfl (fun _ _ h => h.length)
      (fun _ _ _ h => { h with length := .inl rfl }) fun _ _ h hslot => { h with length := hslot }
  · exact follows_formField SearchBox.read_rewritten SearchBox.read_null (fun _ _ h => h.search)
      fun _ _ _ h => { h with search := rfl }
  · exact follows_formField (asList_listed BodyColumn.read_rewritten) (fun _ _ => nofun)
      (fun _ _ h => h.columns) fun _ _ _ h => { h with columns := rfl }
  · exact follows_formField (asList_listed BodyOrder.read_rewritten) (fun _ _ => nofun)
      (fun _ _ h => h.order) fun _ _ _ h => { h with order := rfl }

/-- The bodies ask for the same of every view and are reported the same, and may differ in what is
sent back as it came. -/
structure AsksSame (b b' : Body) : Prop where
  request : ∀ v maxSize, b'.request v maxSize = { b.request v maxSize with draw := b'.draw }
  findings : b'.findings = b.findings

theorem asksSame_withDraw (b : Body) (draw : Json) : b.AsksSame { b with draw := draw } :=
  ⟨fun _ _ => rfl, rfl⟩

/-- **Scalars and the texts that stand for them make the same request.** If a body can be read, so
can it in all of its forms: with integers, truth values and numbers as texts in any of their places,
and without members that are null, wherever they stand. -/
theorem forms_ask_same {d d' : Document} (h : Rewritten forms d d') :
    (∀ room b, read room d = .ok b → ∃ b', read room d' = .ok b' ∧ b.AsksSame b') ∧
      ∀ text text', (Document.ofText text).1 = d → (Document.ofText text').1 = d' →
        ∀ b, Document.decodeStart read text = .ok b →
          ∃ b', Document.decodeStart read text' = .ok b' ∧ b.AsksSame b' ∧
            ((Document.ofText text').2 = true → Document.decode read text' = .ok b') := by
  -- The drafts of both forms match field by field, whatever the room; texts follow from documents.
  have hbody (room : Nat) (b : Body) (hread : read room d = .ok b) :
      ∃ b', read room d' = .ok b' ∧ b.AsksSame b' := by
    obtain ⟨e, hdraft, rfl⟩ := map_eq_ok_iff.1 hread
    obtain ⟨e', hdraft', hmatches⟩ := asRecord_rewritten follows
      (fun _ => ⟨id, .inl rfl, .inl rfl, rfl, rfl, rfl⟩) h hdraft
    refine ⟨_, by rw [read, hdraft']; rfl, ?_⟩
    simp only [hmatches.start.join, hmatches.length.join, hmatches.search, hmatches.columns,
      hmatches.order]
    exact asksSame_withDraw _ _
  refine ⟨hbody, fun text text' htext htext' b hread => ?_⟩
  obtain ⟨b', hread', hsame⟩ := hbody maxDepth b (htext ▸ hread)
  have hstart : Document.decodeStart read text' = .ok b' := by
    rw [Document.decodeStart, htext']
    exact hread'
  refine ⟨b', hstart, hsame, fun hends => ?_⟩
  have hvalue : read maxDepth (Document.ofText text').1 = .ok b' := hstart
  simp only [Document.decode, hvalue, bind, Except.bind, hends, if_true]

/-- A body with numbers, truth values and nulls. -/
def sampleDocument : Document :=
  .object [(some "draw", .object [(some "n", .null)] true),
    (some "start", .number (some (.int 20))), (some "length", .null),
    (some "columns", .array [.object [(some "data", .number (some (.int 7))),
      (some "orderable", .bool true),
      (some "search", .object [(some "value", .bool true)] true)] true] true),
    (some "order", .array [.object [(some "column", .number (some (.int 0))), (some "dir", .null)]
      true] true)] true

/-- The same body with texts, and without the nulls. -/
def sampleTexts : Document :=
  .object [(some "draw", .object [] true), (some "start", .string (some " 20")),
    (some "columns", .array [.object [(some "data", .string (some "7")),
      (some "orderable", .string (some "TRUE ")),
      (some "search", .object [(some "value", .string (some "true"))] true)] true] true),
    (some "order", .array [.object [(some "column", .string (some "0"))] true] true)] true

theorem rewritten_sample : Rewritten forms sampleDocument sampleTexts := by
  have hstart : IntegerForm (.number (some (.int 20))) (.string (some " 20")) :=
    @IntegerForm.digits 20 [' '] [] (by decide) (by decide)
  have hcolumn : IntegerForm (.number (some (.int 0))) (.string (some "0")) :=
    @IntegerForm.digits 0 [] [] (by decide) (by decide)
  have hdata : TextForm (.number (some (.int 7))) (.string (some "7")) := .number (.int 7)
  have horderable : TruthForm (.bool true) (.string (some "TRUE ")) :=
    @TruthForm.word true [] ['T', 'R', 'U', 'E'] [' '] (by decide) (by decide)
      (.word_true (by decide))
  have hsearch : Rewritten SearchBox.forms (.object [(some "value", .bool true)] true)
      (.object [(some "value", .string (some "true"))] true) :=
    .object (.kept (.bool true) .nil)
  refine .object
    (.kept (.object (.dropped .nil)) (.kept hstart (.dropped (.kept ?_ (.kept ?_ .nil)))))
  · exact .items (.cons (.object (.kept hdata (.kept horderable (.kept hsearch .nil)))) .nil)
  · exact .items (.cons (.object (.kept hcolumn (.dropped .nil))) .nil)

theorem read_sampleDocument :
    (read 127 sampleDocument).toOption.map (·.start) = some (some 20) := by
  decide +kernel

/-- Both make the same request of a view. -/
theorem forms_ask_same_sample :
    ∃ b b', read 127 sampleDocument = .ok b ∧ b.start = some 20 ∧ read 127 sampleTexts = .ok b' ∧
      b.AsksSame b' := by
  obtain ⟨b, hb, hstart⟩ := exists_ok_of_map read_sampleDocument
  obtain ⟨b', hb', hsame⟩ := (forms_ask_same rewritten_sample).1 127 b hb
  exact ⟨b, b', hb, hstart, hb', hsame⟩

end Body

end GridQuery.Widget
