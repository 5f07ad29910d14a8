import GridQuery.Sql.Dialect
import Mathlib.Data.List.Chain

/-!
# Reading SQL

A reader takes a SQL text apart from left to right. A quoted name runs from a quote to the next
quote that is not doubled, and a doubled quote inside it stands for one. Outside names a
placeholder is `?`, or `$` with the digits behind it; a run of letters is a word, and any other
character is a sign.

`Token.Apart` says which tokens may stand side by side: two names or two words would run
together. Main result: `read_write`, tokens that stand apart are read back from their text.
-/

namespace GridQuery.Sql

/-! ## Tokens -/

/-- A stretch of SQL text; `μ` is what is known of a placeholder. -/
inductive Token (μ : Type) where
  | name (n : String)
  | word (w : String)
  | sign (c : Char)
  | mark (m : μ)
deriving DecidableEq

namespace Token

variable {μ : Type}

def name? : Token μ → Option String
  | .name n => some n
  | _ => none

def mark? : Token μ → Option μ
  | .mark m => some m
  | _ => none

/-- The token without what is known of its placeholder. -/
def forget : Token μ → Token Unit
  | .name n => .name n
  | .word w => .word w
  | .sign c => .sign c
  | .mark _ => .mark ()

/-- The tokens do not run together when they stand side by side. -/
def Apart : Token μ → Token μ → Prop
  | .name _, .name _ => False
  | .word _, .word _ => False
  | _, _ => True

/-- The characters of a token. -/
def write (d : Dialect) : Token String → List Char
  | .name n => (d.escape n).toList
  | .word w => w.toList
  | .sign c => [c]
  | .mark m => m.toList

@[simp] theorem name?_forget (t : Token μ) : t.forget.name? = t.name? := by cases t <;> rfl

@[simp] theorem apart_forget (t u : Token μ) : Apart t.forget u.forget ↔ Apart t u := by
  cases t <;> cases u <;> rfl

@[simp] theorem apart_sign_left (c : Char) (t : Token μ) : Apart (.sign c) t := trivial

@[simp] theorem apart_sign_right (t : Token μ) (c : Char) : Apart t (.sign c) := by
  cases t <;> trivial

@[simp] theorem apart_mark_left (m : μ) (t : Token μ) : Apart (.mark m) t := trivial

@[simp] theorem apart_mark_right (t : Token μ) (m : μ) : Apart t (.mark m) := by
  cases t <;> trivial

end Token

/-- The characters of tokens. -/
def write (d : Dialect) (ts : List (Token String)) : List Char := ts.flatMap (Token.write d)

/-! ## The reader -/

/-- The character begins a placeholder. -/
def opensMark : Dialect → Char → Bool
  | .mysql, c => c == '?'
  | .postgres, c => c == '$'

/-- The character continues a placeholder. -/
def continuesMark : Dialect → Char → Bool
  | .mysql, _ => false
  | .postgres, c => c.isDigit

/-- Where a reader stands. -/
inductive Mode where
  | start
  /-- Within a quoted name. -/
  | inside (n : List Char)
  /-- Behind a token, which the next character may continue. -/
  | behind (t : Token String)

/-- The place after a character that begins a token. -/
def begin (d : Dialect) (c : Char) : Mode :=
  if c = d.quote then .inside []
  else if opensMark d c then .behind (.mark (String.ofList [c]))
  else if c.isAlpha then .behind (.word (String.ofList [c]))
  else .behind (.sign c)

/-- The place after a character that continues a token; nothing if it does not. -/
def resume? (d : Dialect) (c : Char) : Token String → Option Mode
  | .name n => if c = d.quote then some (.inside (n.toList ++ [c])) else none
  | .word w => if c.isAlpha then some (.behind (.word (String.ofList (w.toList ++ [c])))) else none
  | .sign _ => none
  | .mark m =>
    if continuesMark d c then some (.behind (.mark (String.ofList (m.toList ++ [c])))) else none

/-- The tokens of a text from a place on; nothing if a quoted name does not end. -/
def scan (d : Dialect) : Mode → List Char → Option (List (Token String))
  | .start, [] => some []
  | .inside _, [] => none
  | .behind t, [] => some [t]
  | .start, c :: cs => scan d (begin d c) cs
  | .inside n, c :: cs =>
    if c = d.quote then scan d (.behind (.name (String.ofList n))) cs
    else scan d (.inside (n ++ [c])) cs
  | .behind t, c :: cs =>
    match resume? d c t with
    | some m => scan d m cs
    | none => (scan d (begin d c) cs).map (t :: ·)

/-- The tokens of a SQL text. -/
def read (d : Dialect) (sql : String) : Option (List (Token String)) := scan d .start sql.toList

/-! ## Reading one token -/

/-- The token has the form in which the reader gives it. -/
def Token.Proper (d : Dialect) : Token String → Prop
  | .name _ => True
  | .word w => w.toList ≠ [] ∧ ∀ c ∈ w.toList, c.isAlpha
  | .sign c => c ≠ d.quote ∧ opensMark d c = false ∧ c.isAlpha = false ∧ c.isDigit = false
  | .mark m => ∃ n, m = d.placeholder n

theorem isAlpha_quote (d : Dialect) : d.quote.isAlpha = false := by cases d <;> decide

theorem continuesMark_quote (d : Dialect) : continuesMark d d.quote = false := by
  cases d <;> decide

theorem ne_quote_of_isAlpha {d : Dialect} {c : Char} (h : c.isAlpha) : c ≠ d.quote := by
  rintro rfl
  simp [isAlpha_quote] at h

theorem opensMark_of_isAlpha {d : Dialect} {c : Char} (h : c.isAlpha) : opensMark d c = false := by
  cases d <;> simp only [opensMark, beq_eq_false_iff_ne] <;> rintro rfl <;>
    exact absurd h (by decide)

theorem continuesMark_of_isAlpha {d : Dialect} {c : Char} (h : c.isAlpha) :
    continuesMark d c = false := by
  cases d with
  | mysql => rfl
  | postgres =>
    have hletter : (decide (c.val ≥ 'A'.val ∧ c.val ≤ 'Z'.val) ||
        decide (c.val ≥ 'a'.val) && decide (c.val ≤ 'z'.val)) = true := h
    show (decide (c.val ≥ '0'.val) && decide (c.val ≤ '9'.val)) = false
    simp only [Bool.or_eq_true, Bool.and_eq_true, decide_eq_true_eq, Bool.and_eq_false_iff,
      decide_eq_false_iff_not, UInt32.le_iff_toNat_le, Char.reduceVal, UInt32.reduceToNat]
      at hletter ⊢
    omega

/-- A quoted name, from the place behind its first quote. -/
theorem scan_inside (d : Dialect) (cs : List Char) (n rest : List Char) :
    scan d (.inside n) (cs.flatMap (fun c => if c = d.quote then [d.quote, d.quote] else [c]) ++
      d.quote :: rest) = scan d (.behind (.name (String.ofList (n ++ cs)))) rest := by
  induction cs generalizing n with
  | nil => simp [scan]
  | cons c cs ih =>
    by_cases h : c = d.quote
    · simp [scan, resume?, h, ih]
    · simp [scan, h, ih]

/-- A run of characters that each continue a token of one kind. -/
theorem scan_run {d : Dialect} (kind : String → Token String) {p : Char → Bool}
    (hp : ∀ s c, p c → resume? d c (kind s) =
      some (.behind (kind (String.ofList (s.toList ++ [c])))))
    {cs : List Char} (h : ∀ c ∈ cs, p c) (run rest : List Char) :
    scan d (.behind (kind (String.ofList run))) (cs ++ rest) =
      scan d (.behind (kind (String.ofList (run ++ cs)))) rest := by
  induction cs generalizing run with
  | nil => rw [List.append_nil, List.nil_append]
  | cons c cs ih =>
    have hc : p c := h c List.mem_cons_self
    rw [List.cons_append, scan, hp _ c hc]
    show scan d (.behind (kind (String.ofList ((String.ofList run).toList ++ [c]))))
      (cs ++ rest) = _
    rw [String.toList_ofList, ih fun x hx => h x (List.mem_cons_of_mem c hx), List.append_assoc]
    rfl

/-- A placeholder is its first character and characters that continue it. -/
theorem toList_placeholder (d : Dialect) (n : Nat) :
    ∃ c cs, (d.placeholder n).toList = c :: cs ∧ opensMark d c ∧ ∀ x ∈ cs, continuesMark d x := by
  cases d with
  | mysql => exact ⟨'?', [], by simp [Dialect.placeholder], rfl, by simp⟩
  | postgres =>
    refine ⟨'$', (toString n).toList, by simp [Dialect.placeholder], rfl, fun x hx => ?_⟩
    rw [Nat.toString_eq_repr, Nat.toList_repr] at hx
    exact Nat.isDigit_of_mem_toDigits (by decide) (by decide) hx

/-- The characters of a token begin with one that lets the reader pass over the others and that
does not continue a token standing apart. -/
theorem write_proper {d : Dialect} {t : Token String} (h : t.Proper d) :
    ∃ c cs, t.write d = c :: cs ∧
      (∀ rest, scan d (begin d c) (cs ++ rest) = scan d (.behind t) rest) ∧
      ∀ u : Token String, u.Apart t → resume? d c u = none := by
  -- A case for each kind of token: the quoted name is scanned to its end, a word and a placeholder
  -- run on while their characters do, and a sign is one character.
  cases t with
  | name n =>
    refine ⟨d.quote, _, by simp [Token.write, Dialect.escape, Dialect.escapeChars]; rfl,
      fun rest => ?_, fun u hu => ?_⟩
    · rw [List.append_assoc, begin, if_pos rfl]
      simpa using scan_inside d n.toList [] rest
    · cases u <;> simp [resume?, Token.Apart, isAlpha_quote, continuesMark_quote] at hu ⊢
  | word w =>
    obtain ⟨hne, hw⟩ := h
    obtain ⟨c, cs, hcs⟩ := List.exists_cons_of_ne_nil hne
    rw [hcs] at hw
    have hc : c.isAlpha := hw c List.mem_cons_self
    refine ⟨c, cs, hcs, fun rest => ?_, fun u hu => ?_⟩
    · have hr := scan_run (d := d) .word (p := Char.isAlpha)
        (fun s x hx => by rw [resume?, if_pos hx])
        (fun x hx => hw x (List.mem_cons_of_mem c hx)) [c] rest
      rw [begin, if_neg (ne_quote_of_isAlpha hc), opensMark_of_isAlpha hc, hc]
      simpa [← hcs] using hr
    · cases u <;> simp [resume?, Token.Apart, ne_quote_of_isAlpha hc,
        continuesMark_of_isAlpha hc] at hu ⊢
  | sign c =>
    obtain ⟨hq, hm, ha, hd⟩ := h
    have hcm : continuesMark d c = false := by cases d <;> simp [continuesMark, hd]
    refine ⟨c, [], rfl, fun rest => by simp [begin, hq, hm, ha], fun u _ => ?_⟩
    cases u <;> simp [resume?, hq, ha, hcm]
  | mark m =>
    obtain ⟨n, rfl⟩ := h
    obtain ⟨c, cs, hcs, hc, hrun⟩ := toList_placeholder d n
    refine ⟨c, cs, hcs, fun rest => ?_, fun u _ => ?_⟩
    · have hr := scan_run (d := d) .mark (p := continuesMark d)
        (fun s x hx => by rw [resume?, if_pos hx]) hrun [c] rest
      have hq : c ≠ d.quote := by
        rintro rfl
        cases d <;> exact absurd hc (by decide)
      rw [begin, if_neg hq, hc]
      simpa [← hcs] using hr
    · cases d <;> simp only [opensMark, beq_iff_eq] at hc <;> subst hc <;>
        cases u <;> simp [resume?, continuesMark] <;> decide

/-! ## Reading what is written -/

theorem scan_behind {d : Dialect} (ts : List (Token String)) {t : Token String}
    (hp : ∀ u ∈ ts, u.Proper d) (ha : List.IsChain Token.Apart (t :: ts)) :
    scan d (.behind t) (write d ts) = some (t :: ts) := by
  induction ts generalizing t with
  | nil => rfl
  | cons u ts ih =>
    obtain ⟨hat, hats⟩ := List.isChain_cons_cons.1 ha
    obtain ⟨c, cs, hcs, hpass, hstop⟩ := write_proper (hp u List.mem_cons_self)
    have hw : write d (u :: ts) = c :: (cs ++ write d ts) := by simp [write, hcs]
    have hrest := ih (fun x hx => hp x (List.mem_cons_of_mem u hx)) hats
    rw [hw, scan, hstop t hat]
    show (scan d (begin d c) (cs ++ write d ts)).map (t :: ·) = _
    rw [hpass, hrest]
    rfl

/-- **Tokens that stand apart are read back from their text.** -/
theorem read_write {d : Dialect} {ts : List (Token String)} (hp : ∀ t ∈ ts, t.Proper d)
    (ha : ts.IsChain Token.Apart) : read d (String.ofList (write d ts)) = some ts := by
  rw [read, String.toList_ofList]
  cases ts with
  | nil => rfl
  | cons t ts =>
    obtain ⟨c, cs, hcs, hpass, -⟩ := write_proper (hp t List.mem_cons_self)
    have hw : write d (t :: ts) = c :: (cs ++ write d ts) := by simp [write, hcs]
    rw [hw, scan, hpass]
    exact scan_behind ts (fun x hx => hp x (List.mem_cons_of_mem t hx)) ha

end GridQuery.Sql
