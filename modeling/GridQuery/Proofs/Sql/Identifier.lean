import GridQuery.Proofs.Sql.Token
import Mathlib.Logic.Function.Basic

/-!
# Quoted names in a text

A quoted name is read from its first quote to the next one that is not doubled; a doubled quote
stands for one. Whether a quote ends the name depends on the character behind it alone, so a run of
quotes is taken in pairs from the left, and an odd one at its end closes the name. Whatever a name
holds, its quoted form is read as that name and to its last character, unless another quote follows
it; and nothing but quoted forms is read as a name (`unquote_eq_some_iff`, by induction along the
reader in one direction and on the name in the other).

Main result: `Dialect.escape_delimits`.
-/

namespace GridQuery

namespace Sql

/-! ## The reader of a name -/

/-- What stands before the first quote that is not doubled, its doubled quotes read as one, and what
stands behind that quote; nothing if there is no such quote. -/
def unquote (q : Char) : List Char → Option (List Char × List Char)
  | [] => none
  | [c] => if c = q then some ([], []) else none
  | c :: c' :: cs =>
    if c = q then
      if c' = q then (unquote q cs).map fun (n, rest) => (q :: n, rest) else some ([], c' :: cs)
    else (unquote q (c' :: cs)).map fun (n, rest) => (c :: n, rest)

/-- The quoted name at the head of a text, and the text behind it. -/
def readName? (d : Dialect) (text : String) : Option (String × String) :=
  match text.toList with
  | [] => none
  | c :: cs =>
    if c = d.quote then
      (unquote d.quote cs).map fun (n, rest) => (String.ofList n, String.ofList rest)
    else none

/-- The characters of a name within quotes. -/
def doubled (q : Char) (n : List Char) : List Char :=
  n.flatMap fun c => if c = q then [q, q] else [c]

variable {q c : Char} {cs n rest : List Char}

theorem unquote_cons_of_ne (h : c ≠ q) :
    unquote q (c :: cs) = (unquote q cs).map fun (n, rest) => (c :: n, rest) := by
  cases cs with
  | nil => simp [unquote, h]
  | cons c' cs => rw [unquote, if_neg h]

theorem unquote_quote_quote (q : Char) (cs : List Char) :
    unquote q (q :: q :: cs) = (unquote q cs).map fun (n, rest) => (q :: n, rest) := by
  rw [unquote, if_pos rfl, if_pos rfl]

theorem unquote_quote (h : cs.head? ≠ some q) : unquote q (q :: cs) = some ([], cs) := by
  cases cs with
  | nil => simp [unquote]
  | cons c' cs =>
    have hc : c' ≠ q := by simpa using h
    rw [unquote, if_pos rfl, if_neg hc]

@[simp] theorem doubled_nil (q : Char) : doubled q [] = [] := rfl

theorem doubled_quote_cons (q : Char) (n : List Char) :
    doubled q (q :: n) = q :: q :: doubled q n := by
  simp [doubled]

theorem doubled_cons_of_ne (h : c ≠ q) : doubled q (c :: n) = c :: doubled q n := by
  simp [doubled, h]

/-! ## What is read -/

theorem unquote_doubled (n : List Char) (h : rest.head? ≠ some q) :
    unquote q (doubled q n ++ q :: rest) = some (n, rest) := by
  induction n with
  | nil => exact unquote_quote h
  | cons c n ih =>
    by_cases hc : c = q
    · subst hc
      rw [doubled_quote_cons, List.cons_append, List.cons_append, unquote_quote_quote, ih]
      rfl
    · rw [doubled_cons_of_ne hc, List.cons_append, unquote_cons_of_ne hc, ih]
      rfl

theorem eq_doubled_of_unquote (h : unquote q cs = some (n, rest)) :
    cs = doubled q n ++ q :: rest ∧ rest.head? ≠ some q := by
  fun_induction unquote q cs generalizing n with
  | case1 => cases h
  | case2 =>
    cases h
    simp
  | case3 c hc => cases h
  | case4 cs ih =>
    obtain ⟨⟨m, r⟩, hm, heq⟩ := Option.map_eq_some_iff.1 h
    cases heq
    obtain ⟨hcs, hrest⟩ := ih hm
    exact ⟨by rw [hcs, doubled_quote_cons]; rfl, hrest⟩
  | case5 c' cs hc' =>
    cases h
    exact ⟨rfl, by simpa using hc'⟩
  | case6 c c' cs hc ih =>
    obtain ⟨⟨m, r⟩, hm, heq⟩ := Option.map_eq_some_iff.1 h
    cases heq
    obtain ⟨hcs, hrest⟩ := ih hm
    exact ⟨by rw [hcs, doubled_cons_of_ne hc]; rfl, hrest⟩

theorem unquote_eq_some_iff :
    unquote q cs = some (n, rest) ↔ cs = doubled q n ++ q :: rest ∧ rest.head? ≠ some q := by
  refine ⟨eq_doubled_of_unquote, ?_⟩
  rintro ⟨rfl, h⟩
  exact unquote_doubled n h

theorem toList_escape_append (d : Dialect) (n rest : String) :
    (d.escape n ++ rest).toList =
      d.quote :: (doubled d.quote n.toList ++ d.quote :: rest.toList) := by
  simp [Dialect.escape, Dialect.escapeChars, doubled]

/-- **A name is read exactly from its quoted form.** -/
theorem readName?_eq_some_iff {d : Dialect} {text n rest : String} :
    readName? d text = some (n, rest) ↔
      text = d.escape n ++ rest ∧ rest.toList.head? ≠ some d.quote := by
  constructor
  · intro h
    unfold readName? at h
    split at h
    · cases h
    · next c cs htext =>
      split_ifs at h with hc
      obtain ⟨⟨m, r⟩, hm, heq⟩ := Option.map_eq_some_iff.1 h
      cases heq
      obtain ⟨rfl, hrest⟩ := unquote_eq_some_iff.1 hm
      refine ⟨?_, by rwa [String.toList_ofList]⟩
      rw [← String.toList_inj, toList_escape_append, htext, hc, String.toList_ofList,
        String.toList_ofList]
  · rintro ⟨rfl, h⟩
    have hname : unquote d.quote (doubled d.quote n.toList ++ d.quote :: rest.toList) =
        some (n.toList, rest.toList) := unquote_eq_some_iff.2 ⟨rfl, h⟩
    rw [readName?, toList_escape_append]
    simp [hname]

/-! ## The reader of statements -/

/-- The reader of whole texts takes the name, and goes on behind it. -/
theorem read_escape_append {d : Dialect} (n : String) {rest : String}
    (h : rest.toList.head? ≠ some d.quote) :
    read d (d.escape n ++ rest) = (read d rest).map (.name n :: ·) := by
  have hname := scan_inside d n.toList [] rest.toList
  rw [List.nil_append, String.ofList_toList] at hname
  rw [read, toList_escape_append, scan, begin, if_pos rfl]
  refine hname.trans ?_
  rw [read]
  cases hrest : rest.toList with
  | nil => rfl
  | cons c cs =>
    have hc : c ≠ d.quote := by simpa [hrest] using h
    have hstop : resume? d c (.name n) = none := if_neg hc
    rw [scan, scan, hstop]

end Sql

open Sql

/-- **Quoted names are self-delimiting.** A text is read as a name with another text behind it
exactly when it is the quoted form of the name with that text behind it, and the latter does not
begin with a quote; the reader of statements then goes on with it. So no two names have one quoted
form. -/
theorem Dialect.escape_delimits (d : Dialect) :
    (∀ text n rest : String, readName? d text = some (n, rest) ↔
      text = d.escape n ++ rest ∧ rest.toList.head? ≠ some d.quote) ∧
    (∀ n rest : String, rest.toList.head? ≠ some d.quote →
      read d (d.escape n ++ rest) = (read d rest).map (.name n :: ·)) ∧
    Function.Injective d.escape := by
  refine ⟨fun _ _ _ => readName?_eq_some_iff, fun n _ h => read_escape_append n h, ?_⟩
  intro n m h
  have hn : readName? d (d.escape n ++ "") = some (n, "") :=
    readName?_eq_some_iff.2 ⟨rfl, by simp⟩
  have hm : readName? d (d.escape m ++ "") = some (m, "") :=
    readName?_eq_some_iff.2 ⟨rfl, by simp⟩
  rw [h, hm] at hn
  exact (congrArg Prod.fst (Option.some.inj hn)).symm

/-- A name with quotes at its ends, before a text with a quote that does not end. -/
theorem Dialect.escape_delimits_quotes :
    " = \"b".toList.head? ≠ some Dialect.postgres.quote ∧
      Dialect.postgres.escape "\"a\"\"" = "\"\"\"a\"\"\"\"\"" ∧
      readName? .postgres ("\"\"\"a\"\"\"\"\"" ++ " = \"b") = some ("\"a\"\"", " = \"b") ∧
      read .postgres ("\"\"\"a\"\"\"\"\"" ++ " = \"b") = none := by
  have hrest : " = \"b".toList.head? ≠ some Dialect.postgres.quote := by decide
  have hescape : Dialect.postgres.escape "\"a\"\"" = "\"\"\"a\"\"\"\"\"" := by decide
  obtain ⟨hname, hread, -⟩ := Dialect.escape_delimits .postgres
  specialize hread "\"a\"\"" _ hrest
  rw [hescape] at hread
  refine ⟨hrest, hescape, (hname _ _ _).2 ⟨by rw [hescape], hrest⟩, hread.trans ?_⟩
  decide

end GridQuery
