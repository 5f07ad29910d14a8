import GridQuery.Proofs.Sql.Rendering
import GridQuery.Proofs.Sql.Token
import Mathlib.Data.Option.Basic

/-!
# Phrases

A phrase is SQL text as tokens whose placeholders are not numbered yet. What a predicate is
written as behind any number of values is one phrase, numbered from there on
(`Predicate.Reads`), and joining predicates joins their phrases. A statement is a phrase
numbered from one (`Statement.Reads`).

Main result: `Statement.Reads.read`, the reader gives back the phrase of a statement.
-/

namespace GridQuery

namespace Sql

abbrev Phrase := List (Token Unit)

/-- The placeholders of a phrase. -/
def places (ph : Phrase) : Nat := (ph.filterMap Token.mark?).length

/-- The tokens of a phrase behind `k` values. -/
def number (d : Dialect) : Nat → Phrase → List (Token String)
  | _, [] => []
  | k, .name n :: ph => .name n :: number d k ph
  | k, .word w :: ph => .word w :: number d k ph
  | k, .sign c :: ph => .sign c :: number d k ph
  | k, .mark _ :: ph => .mark (d.placeholder (k + 1)) :: number d (k + 1) ph

/-- The words of statements. -/
def keywords : List String :=
  ["SELECT", "FROM", "WHERE", "ORDER", "BY", "LIMIT", "OFFSET", "AS", "COUNT", "CAST", "CHAR",
    "text", "AND", "OR", "LOWER", "LIKE", "ILIKE", "REGEXP", "IS", "NOT", "NULL", "ASC", "DESC"]

/-- The signs of statements. -/
def punctuation : List Char := [' ', '(', ')', ',', '.', ':', '*', '=', '<', '>', '~']

/-- Words and signs are the fixed ones. -/
def Token.Fixed {μ : Type} : Token μ → Prop
  | .word w => w ∈ keywords
  | .sign c => c ∈ punctuation
  | _ => True

/-! ## Numbering -/

@[simp] theorem number_nil (d : Dialect) (k : Nat) : number d k [] = [] := rfl

theorem number_append (d : Dialect) (k : Nat) (ph ph' : Phrase) :
    number d k (ph ++ ph') = number d k ph ++ number d (k + places ph) ph' := by
  induction ph generalizing k with
  | nil => simp [places]
  | cons t ph ih =>
    have hp : k + 1 + (ph.filterMap Token.mark?).length =
        k + ((ph.filterMap Token.mark?).length + 1) := by omega
    cases t <;> simp [number, ih, places, List.filterMap_cons, Token.mark?, hp]

@[simp] theorem places_append (ph ph' : Phrase) :
    places (ph ++ ph') = places ph + places ph' := by
  simp [places]

/-- Numbering touches placeholders only. -/
theorem map_forget_number (d : Dialect) (k : Nat) (ph : Phrase) :
    (number d k ph).map Token.forget = ph := by
  induction ph generalizing k with
  | nil => rfl
  | cons t ph ih => cases t <;> simp [number, Token.forget, ih]

/-- What does not look at placeholders is the same however they are numbered. -/
theorem filterMap_number {α : Type} {f : Token String → Option α} {g : Token Unit → Option α}
    (h : ∀ t, g t.forget = f t) (d : Dialect) (k : Nat) (ph : Phrase) :
    (number d k ph).filterMap f = ph.filterMap g := by
  conv_rhs => rw [← map_forget_number d k ph, List.filterMap_map]
  exact List.filterMap_congr fun t _ => (h t).symm

theorem names_number (d : Dialect) (k : Nat) (ph : Phrase) :
    (number d k ph).filterMap Token.name? = ph.filterMap Token.name? :=
  filterMap_number Token.name?_forget d k ph

theorem marks_number (d : Dialect) (k : Nat) (ph : Phrase) :
    (number d k ph).filterMap Token.mark? =
      (List.range' (k + 1) (places ph)).map d.placeholder := by
  induction ph generalizing k with
  | nil => rfl
  | cons t ph ih =>
    cases t <;>
      simp [number, List.filterMap_cons, Token.mark?, places, ih, List.range'_succ]

theorem apart_number (d : Dialect) (k : Nat) {ph : Phrase} (h : ph.IsChain Token.Apart) :
    (number d k ph).IsChain Token.Apart := by
  rw [← map_forget_number d k ph, List.isChain_map] at h
  exact h.imp fun t u => (Token.apart_forget t u).1

theorem fixed_number (d : Dialect) (k : Nat) {ph : Phrase} (h : ∀ t ∈ ph, t.Fixed) :
    ∀ t ∈ number d k ph, t.Fixed := by
  intro t ht
  have hf : t.forget ∈ ph := by
    rw [← map_forget_number d k ph]
    exact List.mem_map_of_mem ht
  have := h _ hf
  cases t <;> exact this

/-- The tokens of a phrase of fixed words and signs are as the reader gives them. -/
theorem proper_number (d : Dialect) (k : Nat) {ph : Phrase} (h : ∀ t ∈ ph, t.Fixed) :
    ∀ t ∈ number d k ph, t.Proper d := by
  intro t ht
  have hf := fixed_number d k h t ht
  cases t with
  | name n => trivial
  | word w =>
    have hall : keywords.all fun w => !w.toList.isEmpty && w.toList.all Char.isAlpha := by decide
    simpa [Token.Proper] using List.all_eq_true.1 hall w hf
  | sign c =>
    have hall : punctuation.all fun c =>
        c != d.quote && !opensMark d c && !c.isAlpha && !c.isDigit := by cases d <;> decide
    simpa [Token.Proper, and_assoc] using List.all_eq_true.1 hall c hf
  | mark m =>
    have hm : m ∈ (number d k ph).filterMap Token.mark? := List.mem_filterMap.2 ⟨_, ht, rfl⟩
    rw [marks_number] at hm
    obtain ⟨n, -, rfl⟩ := List.mem_map.1 hm
    exact ⟨n, rfl⟩

/-- The tokens of phrases, each numbered behind those before it. -/
def numberAll (d : Dialect) : Nat → List Phrase → List (List (Token String))
  | _, [] => []
  | k, ph :: phs => number d k ph :: numberAll d (k + places ph) phs

@[simp] theorem numberAll_nil (d : Dialect) (k : Nat) : numberAll d k [] = [] := rfl

theorem numberAll_append (d : Dialect) (k : Nat) (phs phs' : List Phrase) :
    numberAll d k (phs ++ phs') =
      numberAll d k phs ++ numberAll d (k + places phs.flatten) phs' := by
  induction phs generalizing k with
  | nil => rfl
  | cons ph phs ih => simp [numberAll, ih, Nat.add_assoc]

@[simp] theorem length_numberAll (d : Dialect) (k : Nat) (phs : List Phrase) :
    (numberAll d k phs).length = phs.length := by
  induction phs generalizing k with
  | nil => rfl
  | cons ph phs ih => simp [numberAll, ih]

/-! ## Legible phrases -/

/-- The reader can tell the tokens of the phrase apart, and its words and signs are fixed ones. -/
def Legible (ph : Phrase) : Prop := ph.IsChain Token.Apart ∧ ∀ t ∈ ph, t.Fixed

@[simp] theorem legible_nil : Legible [] := ⟨.nil, by simp⟩

@[simp] theorem legible_name (n : String) : Legible [.name n] :=
  ⟨.singleton _, by simp [Token.Fixed]⟩

@[simp] theorem legible_word (w : String) : Legible [.word w] ↔ w ∈ keywords := by
  simp [Legible, Token.Fixed]

@[simp] theorem legible_append_sign (ph : Phrase) (c : Char) (ph' : Phrase) :
    Legible (ph ++ .sign c :: ph') ↔ Legible ph ∧ c ∈ punctuation ∧ Legible ph' := by
  have hright : (Token.sign c :: ph').IsChain Token.Apart ↔ ph'.IsChain Token.Apart := by
    cases ph' <;> simp
  have hleft : (ph ++ [Token.sign c]).IsChain Token.Apart ↔ ph.IsChain Token.Apart := by
    simp [List.isChain_append]
  rw [Legible, List.isChain_split, hleft, hright, Legible, Legible]
  simp only [List.mem_append, List.mem_cons, or_imp, forall_and, forall_eq, Token.Fixed]
  tauto

@[simp] theorem legible_sign_cons (c : Char) (ph : Phrase) :
    Legible (.sign c :: ph) ↔ c ∈ punctuation ∧ Legible ph := by
  simpa using legible_append_sign [] c ph

@[simp] theorem legible_mark_cons (m : Unit) (ph : Phrase) :
    Legible (.mark m :: ph) ↔ Legible ph := by
  cases ph <;> simp [Legible, Token.Fixed]

@[simp] theorem legible_name_sign (n : String) (c : Char) (ph : Phrase) :
    Legible (.name n :: .sign c :: ph) ↔ c ∈ punctuation ∧ Legible ph := by
  simpa using legible_append_sign [.name n] c ph

@[simp] theorem legible_word_sign (w : String) (c : Char) (ph : Phrase) :
    Legible (.word w :: .sign c :: ph) ↔ w ∈ keywords ∧ c ∈ punctuation ∧ Legible ph := by
  simpa using legible_append_sign [.word w] c ph

/-! ## Fixed text -/

/-- The text is a phrase without placeholders. -/
structure Spells (d : Dialect) (sql : String) (ph : Phrase) : Prop where
  chars : ∀ k, sql.toList = write d (number d k ph)
  places : places ph = 0

theorem write_append (d : Dialect) (ts us : List (Token String)) :
    write d (ts ++ us) = write d ts ++ write d us := List.flatMap_append

theorem Spells.append {d : Dialect} {sql sql' : String} {ph ph' : Phrase} (h : Spells d sql ph)
    (h' : Spells d sql' ph') : Spells d (sql ++ sql') (ph ++ ph') where
  chars k := by
    rw [String.toList_append, number_append, write_append, ← h.chars, ← h'.chars]
  places := by rw [places_append, h.places, h'.places]

theorem spells_escape (d : Dialect) (n : String) : Spells d (d.escape n) [.name n] :=
  ⟨fun _ => by simp [write, number, Token.write], rfl⟩

/-- Phrases one behind the other, with a phrase between any two. -/
theorem spells_intercalate {d : Dialect} {sep : String} {between : Phrase}
    (hsep : Spells d sep between) {sqls : List String} {phs : List Phrase}
    (h : List.Forall₂ (Spells d) sqls phs) :
    Spells d (sep.intercalate sqls) (between.intercalate phs) := by
  induction h with
  | nil => exact ⟨fun _ => rfl, rfl⟩
  | @cons sql ph sqls phs hhead htail ih =>
    cases htail with
    | nil => simpa using hhead
    | cons _ _ =>
      rw [String.intercalate_cons_cons, List.intercalate_cons_cons]
      exact (hhead.append hsep).append ih

end Sql

open Sql

/-! ## Predicates -/

/-- The predicate is written as the phrase, numbered behind the values before it. -/
structure Predicate.Reads (d : Dialect) (p : Predicate) (ph : Phrase) : Prop where
  filled : p.isEmpty = false
  chars : ∀ k, (p.sqlFrom d k).toList = write d (number d k ph)
  values : p.values.length = places ph

namespace Predicate

variable {d : Dialect} {p q : Predicate} {ph ph' : Phrase} {sql : String}

theorem reads_push_empty (h : Spells d sql ph) : (empty.push sql).Reads d ph where
  filled := isEmpty_push _ _
  chars k := by rw [sqlFrom_push, sqlFrom_empty, String.empty_append, h.chars]
  values := by rw [values_push, h.places]; rfl

theorem Reads.push (hp : p.Reads d ph) (h : Spells d sql ph') :
    (p.push sql).Reads d (ph ++ ph') where
  filled := isEmpty_push _ _
  chars k := by
    rw [sqlFrom_push, String.toList_append, number_append, write_append, hp.chars, ← h.chars]
  values := by rw [values_push, places_append, h.places, hp.values, Nat.add_zero]

theorem Reads.bind (hp : p.Reads d ph) (v : Value) : (p.bind v).Reads d (ph ++ [.mark ()]) where
  filled := isEmpty_bind _ _
  chars k := by
    rw [sqlFrom_bind, String.toList_append, number_append, write_append, hp.chars, hp.values]
    simp [write, number, Token.write]
  values := by
    rw [values_bind, List.length_append, hp.values, places_append]
    rfl

theorem Reads.append (hp : p.Reads d ph) (hq : q.Reads d ph') :
    (p.append q).Reads d (ph ++ ph') where
  filled := isEmpty_append hp.filled q
  chars k := by
    rw [sqlFrom_append, String.toList_append, number_append, write_append, hp.chars, hq.chars,
      hp.values]
  values := by rw [values_append, List.length_append, places_append, hp.values, hq.values]

end Predicate

/-! ## Joined predicates -/

namespace Sql

/-- A word between two conditions. -/
def between {μ : Type} (w : String) : List (Token μ) := [.sign ' ', .word w, .sign ' ']

/-- Conditions with a word between any two, in parentheses. -/
def enclosed {μ : Type} (w : String) (tss : List (List (Token μ))) : List (Token μ) :=
  .sign '(' :: (between w).intercalate tss ++ [.sign ')']

/-- What looks past the separator is found phrase by phrase. -/
theorem filterMap_intercalate {α : Type} (f : Token Unit → Option α) {sep : Phrase}
    (hsep : sep.filterMap f = []) (phs : List Phrase) :
    (sep.intercalate phs).filterMap f = phs.flatMap (·.filterMap f) := by
  induction phs with
  | nil => rfl
  | cons ph phs ih =>
    cases phs with
    | nil => simp
    | cons ph' phs =>
      rw [List.intercalate_cons_cons, List.filterMap_append, List.filterMap_append, hsep, ih]
      simp

theorem number_between (d : Dialect) (k : Nat) (w : String) (phs : List Phrase) :
    number d k ((between w).intercalate phs) = (between w).intercalate (numberAll d k phs) := by
  induction phs generalizing k with
  | nil => rfl
  | cons ph phs ih =>
    cases phs with
    | nil => simp [numberAll]
    | cons ph' phs =>
      have hplaces : places (between w) = 0 := rfl
      rw [List.intercalate_cons_cons, number_append, number_append, ih, places_append, hplaces,
        Nat.add_zero]
      exact List.intercalate_cons_cons.symm

theorem number_enclosed (d : Dialect) (k : Nat) (w : String) (phs : List Phrase) :
    number d k (enclosed w phs) = enclosed w (numberAll d k phs) := by
  rw [enclosed, List.cons_append, number, number_append, number_between]
  rfl

/-- The phrase of a group of conditions, if there are any. -/
def grouped {μ : Type} (w : String) : List (List (Token μ)) → Option (List (Token μ))
  | [] => none
  | ts :: tss => some (enclosed w (ts :: tss))

/-- The phrase of groups that must all hold, if there are any. -/
def chained : List Phrase → Option Phrase
  | [] => none
  | ph :: phs => some ((between "AND").intercalate (ph :: phs))

/-- A phrase that begins and ends with signs keeps the phrases around it legible. -/
theorem legible_intercalate (a b : Char) (mid : Phrase)
    (hmid : Legible (.sign a :: mid ++ [.sign b])) {phs : List Phrase}
    (h : ∀ ph ∈ phs, Legible ph) :
    Legible (List.intercalate (.sign a :: mid ++ [.sign b]) phs) := by
  induction phs with
  | nil => exact legible_nil
  | cons ph phs ih =>
    have hph : Legible ph := h ph List.mem_cons_self
    have hphs := ih fun x hx => h x (List.mem_cons_of_mem ph hx)
    cases phs with
    | nil => simpa using hph
    | cons ph' phs =>
      rw [List.intercalate_cons_cons]
      simp only [List.append_assoc, List.cons_append, List.nil_append, legible_append_sign,
        legible_sign_cons] at hmid hphs ⊢
      tauto

theorem legible_between {w : String} (hw : w ∈ keywords) {phs : List Phrase}
    (h : ∀ ph ∈ phs, Legible ph) : Legible ((between w).intercalate phs) :=
  legible_intercalate ' ' ' ' [.word w] (by simp [hw, punctuation]) h

theorem legible_grouped {w : String} (hw : w ∈ keywords) {phs : List Phrase}
    (h : ∀ ph ∈ phs, Legible ph) : ∀ ph ∈ grouped w phs, Legible ph := by
  intro ph hph
  cases phs with
  | nil => simp [grouped] at hph
  | cons ph' phs =>
    simp only [grouped, Option.mem_def, Option.some.injEq] at hph
    subst hph
    have hall := legible_between hw h
    simp [enclosed, punctuation, hall]

theorem legible_chained {phs : List Phrase} (h : ∀ ph ∈ phs, Legible ph) :
    ∀ ph ∈ chained phs, Legible ph := by
  intro ph hph
  cases phs with
  | nil => simp [chained] at hph
  | cons ph' phs =>
    simp only [chained, Option.mem_def, Option.some.injEq] at hph
    subst hph
    exact legible_between (by decide) h

theorem intercalate_head (sep ph ph' : Phrase) (phs : List Phrase) :
    sep.intercalate ((ph ++ sep ++ ph') :: phs) = sep.intercalate (ph :: ph' :: phs) := by
  cases phs <;> simp

/-! ## Words -/

/-- The words of the phrase are among these. -/
def Over (ws : List String) (ph : Phrase) : Prop := ∀ w, Token.word w ∈ ph → w ∈ ws

theorem mem_intercalate {μ : Type} {t : Token μ} {sep : List (Token μ)}
    {phs : List (List (Token μ))} (h : t ∈ sep.intercalate phs) :
    t ∈ sep ∨ ∃ ph ∈ phs, t ∈ ph := by
  induction phs with
  | nil => cases h
  | cons ph phs ih =>
    cases phs with
    | nil =>
      rw [List.intercalate_singleton] at h
      exact .inr ⟨ph, List.mem_cons_self, h⟩
    | cons ph' phs =>
      rw [List.intercalate_cons_cons, List.mem_append, List.mem_append] at h
      rcases h with (h | h) | h
      · exact .inr ⟨ph, List.mem_cons_self, h⟩
      · exact .inl h
      · refine (ih h).imp_right ?_
        rintro ⟨x, hx, ht⟩
        exact ⟨x, List.mem_cons_of_mem ph hx, ht⟩

theorem over_between {ws : List String} {w : String} (hw : w ∈ ws) {phs : List Phrase}
    (h : ∀ ph ∈ phs, Over ws ph) : Over ws ((between w).intercalate phs) := by
  intro x hx
  rcases mem_intercalate hx with hx | ⟨ph, hph, hx⟩
  · simp only [between, List.mem_cons, List.not_mem_nil, reduceCtorEq, false_or, or_false,
      Token.word.injEq] at hx
    exact hx ▸ hw
  · exact h ph hph x hx

theorem over_grouped {ws : List String} {w : String} (hw : w ∈ ws) {phs : List Phrase}
    (h : ∀ ph ∈ phs, Over ws ph) : ∀ ph ∈ grouped w phs, Over ws ph := by
  intro ph hph x hx
  cases phs with
  | nil => cases hph
  | cons ph' phs =>
    obtain rfl := Option.some.inj hph
    refine over_between hw h x ?_
    simpa [enclosed] using hx

theorem over_chained {ws : List String} (hw : "AND" ∈ ws) {phs : List Phrase}
    (h : ∀ ph ∈ phs, Over ws ph) : ∀ ph ∈ chained phs, Over ws ph := by
  intro ph hph
  cases phs with
  | nil => cases hph
  | cons ph' phs =>
    obtain rfl := Option.some.inj hph
    exact over_between hw h

end Sql

namespace Predicate

variable {d : Dialect} {p : Predicate} {ph sep : Phrase} {sql : String}

theorem Reads.appendAll (hsep : Spells d sql sep) {qs : List Predicate} {phs : List Phrase}
    (h : List.Forall₂ (Reads d) qs phs) (hp : p.Reads d ph) :
    (appendAll sql p qs).Reads d (sep.intercalate (ph :: phs)) := by
  induction h generalizing p ph with
  | nil =>
    rw [List.intercalate_singleton]
    exact hp
  | @cons q ph' qs phs hq _ ih =>
    rw [← intercalate_head]
    exact ih ((hp.push hsep).append hq)

theorem filter_filled {ps : List Predicate} {phs : List Phrase}
    (h : List.Forall₂ (Reads d) ps phs) : ps.filter (!·.isEmpty) = ps := by
  induction h with
  | nil => rfl
  | cons hp _ ih => rw [List.filter_cons_of_pos (by simp [hp.filled]), ih]

theorem reads_group {w : String} (hsep : Spells d sql (between w)) {ps : List Predicate}
    {phs : List Phrase} (h : List.Forall₂ (Reads d) ps phs) :
    Option.Rel (Reads d) (group sql ps) (grouped w phs) := by
  rw [group, filter_filled h]
  cases h with
  | nil => exact .none
  | @cons p ph ps phs hp hps =>
    have hopen : (empty.push "(").Reads d [.sign '('] := reads_push_empty ⟨fun _ => rfl, rfl⟩
    have hall := (hopen.append hp).appendAll hsep hps
    have hclose : Spells d ")" [.sign ')'] := ⟨fun _ => rfl, rfl⟩
    have henclosed : (between w).intercalate (([.sign '('] ++ ph) :: phs) ++ [.sign ')'] =
        enclosed w (ph :: phs) := by cases phs <;> simp [enclosed]
    rw [grouped, ← henclosed]
    exact .some (hall.push hclose)

theorem reads_all {ps : List Predicate} {phs : List Phrase} (h : List.Forall₂ (Reads d) ps phs) :
    Option.Rel (Reads d) (all ps) (grouped "AND" phs) :=
  reads_group ⟨fun _ => rfl, rfl⟩ h

theorem reads_any {ps : List Predicate} {phs : List Phrase} (h : List.Forall₂ (Reads d) ps phs) :
    Option.Rel (Reads d) (any ps) (grouped "OR" phs) :=
  reads_group ⟨fun _ => rfl, rfl⟩ h

theorem reads_conjunction {ps : List Predicate} {phs : List Phrase}
    (h : List.Forall₂ (Reads d) ps phs) :
    Option.Rel (Reads d) (conjunction ps) (chained phs) := by
  rw [conjunction, filter_filled h]
  cases h with
  | nil => exact .none
  | cons hp hps =>
    rw [chained]
    exact .some (hp.appendAll ⟨fun _ => rfl, rfl⟩ hps)

end Predicate

/-! ## Statements -/

/-- The statement is written as the phrase, its values numbered from one. -/
structure Statement.Reads (d : Dialect) (s : Statement) (ph : Phrase) : Prop where
  chars : s.sql.toList = write d (number d 0 ph)
  values : s.values.length = places ph

namespace Statement

variable {d : Dialect} {s : Statement} {ph ph' : Phrase} {sql : String}

theorem reads_empty : Statement.empty.Reads d [] := ⟨rfl, rfl⟩

theorem Reads.push (hs : s.Reads d ph) (h : Spells d sql ph') :
    (s.push sql).Reads d (ph ++ ph') where
  chars := by
    rw [sql_push, String.toList_append, number_append, write_append, hs.chars, ← h.chars]
  values := by rw [values_push, places_append, h.places, hs.values, Nat.add_zero]

theorem Reads.bind (hs : s.Reads d ph) (v : Value) : (s.bind d v).Reads d (ph ++ [.mark ()]) where
  chars := by
    rw [sql_bind, String.toList_append, number_append, write_append, hs.chars, hs.values]
    simp [write, number, Token.write]
  values := by
    rw [values_bind, List.length_append, hs.values, places_append]
    rfl

theorem Reads.pushPredicate (hs : s.Reads d ph) {p : Predicate} (hp : p.Reads d ph') :
    (s.pushPredicate d p).Reads d (ph ++ ph') where
  chars := by
    rw [sql_pushPredicate, String.toList_append, number_append, write_append, hs.chars, hp.chars,
      hs.values, Nat.zero_add]
  values := by rw [values_pushPredicate, List.length_append, places_append, hs.values, hp.values]

/-- **The reader gives back the phrase of a statement.** -/
theorem Reads.read (hs : s.Reads d ph) (hl : Legible ph) :
    Sql.read d s.sql = some (number d 0 ph) := by
  rw [← String.ofList_toList (s := s.sql), hs.chars]
  exact read_write (proper_number d 0 hl.2) (apart_number d 0 hl.1)

end Statement

end GridQuery
