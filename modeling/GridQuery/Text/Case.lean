import GridQuery.Text.CaseTable

/-!
# Upper and lower case

Two notions of case. Names in settings and type names ignore the case of the letters A to Z
only; a displayed cell is mapped character by character with the full Unicode tables, where a
capital sigma at the end of a word becomes the final form.
-/

namespace GridQuery.Text

/-! ## Letters A to Z -/

def asciiLower (s : String) : String := String.ofList (s.toList.map Char.toLower)

/-! ## All letters -/

/-- The character a table of runs maps `c` to. -/
def mapRun (runs : Array CaseRun) (firsts : Array Nat) (c : Char) : Char :=
  let n := c.toNat
  match runs[countUpTo firsts n 0 firsts.size - 1]? with
  | some r =>
    if r.first ≤ n ∧ n ≤ r.last ∧ (n - r.first) % r.step = 0 then
      Char.ofNat (n + r.shift).toNat
    else c
  | none => c

def lowerFirsts : Array Nat := lowerRuns.map (·.first)

def upperFirsts : Array Nat := upperRuns.map (·.first)

/-- The lowercase of a character that stands alone. -/
def lowerChar (c : Char) : List Char :=
  (lowerSpecial.lookup c.toNat).getD [mapRun lowerRuns lowerFirsts c]

/-- The uppercase of a character. -/
def upperChar (c : Char) : List Char :=
  (upperSpecial.lookup c.toNat).getD [mapRun upperRuns upperFirsts c]

def upper (s : String) : String := String.ofList (s.toList.flatMap upperChar)

/-- The next character that is not ignored for case is a cased one. -/
def meetsCased (cs : List Char) : Bool :=
  match cs.dropWhile caseIgnorable.contains with
  | c :: _ => cased.contains c
  | [] => false

/-- Lowercases `cs`, where `before` holds the characters already passed, last one first. -/
def lowerAfter (before : List Char) : List Char → List Char
  | [] => []
  | c :: cs =>
    (if c = 'Σ' then
      [if meetsCased before && !meetsCased cs then 'ς' else 'σ']
    else lowerChar c) ++ lowerAfter (c :: before) cs

def lower (s : String) : String := String.ofList (lowerAfter [] s.toList)

end GridQuery.Text
