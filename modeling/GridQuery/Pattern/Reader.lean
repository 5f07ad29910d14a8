import GridQuery.Pattern.Tree
import GridQuery.Text.Letter

/-!
# Reading search patterns

The grammar of regular expressions. In the mode that ignores space, blanks and comments may
stand between the characters of almost every construct, so the readers take that mode along.
-/

namespace GridQuery.Pattern

open Text

/-! ## Space -/

/-- Passes over blanks and comments if they are to be ignored. -/
def skipSpaceIn (comment : Bool) : List Char → List Char
  | [] => []
  | c :: cs =>
    if comment then skipSpaceIn (c != '\n') cs
    else if isBlank c then skipSpaceIn false cs
    else if c = '#' then skipSpaceIn true cs
    else c :: cs

def skipSpace (x : Bool) (cs : List Char) : List Char := if x then skipSpaceIn false cs else cs

/-- The next character that is neither blank nor the start of a comment. -/
def nextVisible (comment : Bool) : List Char → Option Char
  | [] => none
  | c :: cs =>
    if isBlank c then nextVisible comment cs
    else if !comment && c == '#' then nextVisible true cs
    else some c

/-- The character after the current one, as ranges in brackets look ahead to it. -/
def peek (x : Bool) : List Char → Option Char
  | [] => none
  | _ :: rest => if x then (nextVisible false rest).or rest.head? else rest.head?

/-! ## Escapes -/

/-- A backslash may stand before any ASCII character but letters, digits and angles. -/
def isEscapable (c : Char) : Bool :=
  c.toNat < 0x80 && !c.isAlphanum && c != '<' && c != '>'

def hexValue? (c : Char) : Option Nat :=
  if c.isDigit then some (c.toNat - '0'.toNat)
  else if 'a' ≤ c ∧ c ≤ 'f' then some (c.toNat - 'a'.toNat + 10)
  else if 'A' ≤ c ∧ c ≤ 'F' then some (c.toNat - 'A'.toNat + 10)
  else none

/-- The character with a code, if it exists. -/
def charOf? (n : Nat) : Option Char := if n.isValidChar then some (Char.ofNat n) else none

/-- A fixed number of hexadecimal digits. -/
def readHexDigits (x : Bool) : Nat → Nat → List Char → Option (Nat × List Char)
  | 0, n, cs => some (n, cs)
  | _ + 1, _, [] => none
  | k + 1, n, c :: cs =>
    match hexValue? c with
    | some d => readHexDigits x k (n * 16 + d) (skipSpace x cs)
    | none => none

/-- The characters up to a closing brace, and what follows it. -/
def readBraced (x : Bool) : Nat → List Char → Option (List Char × List Char)
  | 0, _ => none
  | fuel + 1, cs =>
    match skipSpace x cs with
    | [] => none
    | '\x7d' :: rest => some ([], rest)
    | c :: rest => (readBraced x fuel rest).map fun r => (c :: r.1, r.2)

/-- A character given by its code: two, four or eight digits, or any number in braces. -/
def readHex (x : Bool) (width : Nat) (cs : List Char) : Option (Atom × List Char) :=
  match skipSpace x cs with
  | '\x7b' :: rest => do
    let (ds, rest) ← readBraced x (rest.length + 1) rest
    let values ← ds.mapM hexValue?
    if values.isEmpty then none
    else
      let c ← charOf? (values.foldl (fun n d => n * 16 + d) 0)
      return (.char c false, skipSpace x rest)
  | cs => do
    let (n, rest) ← readHexDigits x width 0 cs
    let c ← charOf? n
    return (.char c (width == 2), rest)

/-- Splits at the first place where one of the separators stands. -/
def splitAtWord (word : List Char) : List Char → Option (List Char × List Char)
  | [] => none
  | c :: cs =>
    if word.isPrefixOf (c :: cs) then some ([], (c :: cs).drop word.length)
    else (splitAtWord word cs).map fun r => (c :: r.1, r.2)

def queryOf (name : List Char) : PropertyQuery :=
  match splitAtWord ['!', '='] name with
  | some (n, v) => .valued n v
  | none =>
    match splitAtWord [':'] name with
    | some (n, v) => .valued n v
    | none =>
      match splitAtWord ['='] name with
      | some (n, v) => .valued n v
      | none => .named name

/-- A property: a letter, or a name in braces. -/
def readProperty (x : Bool) (negated : Bool) (cs : List Char) : Option (Atom × List Char) :=
  match skipSpace x cs with
  | [] => none
  | '\x7b' :: rest => do
    let (name, rest) ← readBraced x (rest.length + 1) rest
    return (.property (queryOf name) negated, rest)
  | '\\' :: _ => none
  | c :: rest => some (.property (.named [c]) negated, skipSpace x rest)

def isBoundaryChar (c : Char) : Bool := c.isAlpha || c == '-'

/-- The letters of a special word boundary. -/
def readBoundaryName (x : Bool) : Nat → List Char → List Char × List Char
  | 0, cs => ([], cs)
  | fuel + 1, cs =>
    match cs with
    | c :: rest =>
      if isBoundaryChar c then
        let r := readBoundaryName x fuel (skipSpace x rest)
        (c :: r.1, r.2)
      else ([], cs)
    | [] => ([], [])

/-- What may follow the escape for a word boundary: a kind of boundary in braces. Braces that
do not start with a letter or a hyphen are left to the repetition. -/
def readBoundary (x : Bool) (cs : List Char) : Option (List Char) :=
  match cs with
  | '\x7b' :: rest =>
    match skipSpace x rest with
    | [] => none
    | c :: tail =>
      if isBoundaryChar c then
        match readBoundaryName x (tail.length + 2) (c :: tail) with
        | (name, '\x7d' :: rest) =>
          if ["start", "end", "start-half", "end-half"].contains (String.ofList name) then some rest
          else none
        | _ => none
      else some cs
  | cs => some cs

/-- What stands behind a backslash. -/
def readEscape (x : Bool) : List Char → Option (Atom × List Char)
  | [] => none
  | c :: rest =>
    match c with
    | 'x' => readHex x 2 rest
    | 'u' => readHex x 4 rest
    | 'U' => readHex x 8 rest
    | 'p' => readProperty x false rest
    | 'P' => readProperty x true rest
    | 'd' => some (.letterClass .digit false, rest)
    | 's' => some (.letterClass .space false, rest)
    | 'w' => some (.letterClass .word false, rest)
    | 'D' => some (.letterClass .digit true, rest)
    | 'S' => some (.letterClass .space true, rest)
    | 'W' => some (.letterClass .word true, rest)
    | 'a' => some (.char '\x07' false, rest)
    | 'f' => some (.char '\x0c' false, rest)
    | 't' => some (.char '\t' false, rest)
    | 'n' => some (.char '\n' false, rest)
    | 'r' => some (.char '\r' false, rest)
    | 'v' => some (.char '\x0b' false, rest)
    | 'A' => some (.assertion, rest)
    | 'z' => some (.assertion, rest)
    | 'b' => (readBoundary x rest).map fun rest => (.assertion, rest)
    | 'B' => some (.assertion, rest)
    | '<' => some (.assertion, rest)
    | '>' => some (.assertion, rest)
    | c => if isEscapable c then some (.char c false, rest) else none

/-! ## Classes in brackets -/

/-- The named classes with the number of their stretches of characters. -/
def posixStretches? (name : String) : Option Nat :=
  match name with
  | "alnum" => some 3
  | "alpha" => some 2
  | "ascii" => some 1
  | "blank" => some 2
  | "cntrl" => some 2
  | "digit" => some 1
  | "graph" => some 1
  | "lower" => some 1
  | "print" => some 1
  | "punct" => some 4
  | "space" => some 2
  | "upper" => some 1
  | "word" => some 4
  | "xdigit" => some 3
  | _ => none

/-- A named class between colons, after its opening bracket. -/
def readPosix (cs : List Char) : Option (ClassSet × List Char) :=
  match cs with
  | ':' :: rest =>
    let (negated, rest) := match rest with
      | '^' :: rest => (true, rest)
      | rest => (false, rest)
    match rest.dropWhile (· ≠ ':') with
    | ':' :: ']' :: after =>
      (posixStretches? (String.ofList (rest.takeWhile (· ≠ ':')))).map fun n =>
        (.posix n negated, after)
    | _ => none
  | _ => none

/-- An element of a class: an escape or the character itself. -/
def readClassAtom (x : Bool) : List Char → Option (Atom × List Char)
  | '\\' :: rest => readEscape x rest
  | c :: rest => some (.char c false, rest)
  | [] => none

/-- An atom as a member of a class. -/
def ClassSet.ofAtom? : Atom → Option ClassSet
  | .char c _ => some (.char c)
  | .letterClass k negated => some (.letterClass k negated)
  | .property q negated => some (.property q negated)
  | .anyChar => none
  | .assertion => none

/-- A member of a class or a range of characters. -/
def readRange (x : Bool) (cs : List Char) : Option (ClassSet × List Char) := do
  let (first, rest) ← readClassAtom x cs
  match skipSpace x rest with
  | [] => none
  | c :: rest =>
    if c != '-' || peek x (c :: rest) == some ']' || peek x (c :: rest) == some '-' then do
      let member ← ClassSet.ofAtom? first
      return (member, c :: rest)
    else do
      let (last, rest) ← readClassAtom x (skipSpace x rest)
      match first, last with
      | .char a _, .char b _ => if a ≤ b then some (.range a b, rest) else none
      | _, _ => none

/-- Hyphens at the start of a class stand for themselves. -/
def readHyphens (x : Bool) : Nat → List Char → List ClassSet × List Char
  | fuel + 1, '-' :: rest =>
    let r := readHyphens x fuel (skipSpace x rest)
    (.char '-' :: r.1, r.2)
  | _, cs => ([], cs)

/-- The start of a class after its opening bracket: negation, and hyphens or a closing
bracket that stand for themselves. -/
def readClassStart (x : Bool) (cs : List Char) : Option (Bool × List ClassSet × List Char) :=
  let (negated, cs) := match skipSpace x cs with
    | '^' :: rest => (true, skipSpace x rest)
    | cs => (false, cs)
  let (hyphens, cs) := readHyphens x cs.length cs
  match hyphens, cs with
  | _, [] => none
  | [], ']' :: rest =>
    match skipSpace x rest with
    | [] => none
    | rest => some (negated, [.char ']'], rest)
  | hyphens, cs => some (negated, hyphens, cs)

/-- The members read so far as the right side of a pending operation. -/
def closeSet (left : Option ClassSet) (members : List ClassSet) : ClassSet :=
  let right := match members with
    | [m] => m
    | ms => .union ms
  match left with
  | some l => .operation l right
  | none => right

/-- The rest of a class up to its closing bracket; `members` are in reverse. -/
def readClassRest (x : Bool) : Nat → Option ClassSet → List ClassSet → List Char →
    Option (ClassSet × List Char)
  | 0, _, _, _ => none
  | fuel + 1, left, members, cs =>
    match skipSpace x cs with
    | [] => none
    | ']' :: rest => some (closeSet left members.reverse, rest)
    | '[' :: rest =>
      match readPosix rest with
      | some (p, rest) => readClassRest x fuel left (p :: members) rest
      | none =>
        match readClassStart x rest with
        | none => none
        | some (negated, first, rest) =>
          match readClassRest x fuel none first.reverse rest with
          | none => none
          | some (inner, rest) =>
            readClassRest x fuel left (.bracketed negated inner :: members) rest
    | '&' :: '&' :: rest => readClassRest x fuel (some (closeSet left members.reverse)) [] rest
    | '-' :: '-' :: rest => readClassRest x fuel (some (closeSet left members.reverse)) [] rest
    | '~' :: '~' :: rest => readClassRest x fuel (some (closeSet left members.reverse)) [] rest
    | cs =>
      match readRange x cs with
      | some (m, rest) => readClassRest x fuel left (m :: members) rest
      | none => none

/-- A class after its opening bracket. -/
def readClass (x : Bool) (cs : List Char) : Option (Tree × List Char) := do
  let (negated, first, rest) ← readClassStart x cs
  let (inner, rest) ← readClassRest x (cs.length + 1) none first.reverse rest
  return (.bracketed negated inner, rest)

/-! ## Groups -/

def flagOf? : Char → Option Flag
  | 'i' => some .ignoreCase
  | 'm' => some .multiLine
  | 's' => some .dotMatchesNewline
  | 'U' => some .swapGreed
  | 'u' => some .unicode
  | 'R' => some .crlf
  | 'x' => some .ignoreSpace
  | _ => none

/-- Flags up to a colon or a closing parenthesis, which is returned too. Each flag and the
minus sign stand at most once, and a flag follows the minus sign. -/
def readFlags (negated : Option Bool) (changes : FlagChanges) :
    List Char → Option (FlagChanges × Char × List Char)
  | [] => none
  | c :: rest =>
    if c = ':' ∨ c = ')' then
      -- `some true` right behind the minus sign
      if negated = some true then none else some (changes, c, rest)
    else if c = '-' then
      if negated.isSome then none else readFlags (some true) changes rest
    else
      match flagOf? c with
      | none => none
      | some f =>
        if changes.any (·.1 == f) then none
        else
          readFlags (negated.map fun _ => false) (changes ++ [(f, negated.isNone)]) rest

def isNameChar (first : Bool) (c : Char) : Bool :=
  c == '_' || if first then alphabetic.contains c
    else c == '.' || c == '[' || c == ']' || alphabetic.contains c || numeric.contains c

/-- The name of a group, up to its closing angle. -/
def readGroupName (cs : List Char) : Option (List Char × List Char) :=
  let name := cs.takeWhile (· ≠ '>')
  match name, cs.dropWhile (· ≠ '>') with
  | c :: tail, _ :: rest =>
    if isNameChar true c && tail.all (isNameChar false) then some (name, rest) else none
  | _, _ => none

/-- What an opening parenthesis starts. -/
inductive GroupStart where
  | flags (changes : FlagChanges)
  | group (capturing : Bool) (changes : FlagChanges)

/-- The start of a group, with the names of groups extended by its own. -/
def readGroupStart (x : Bool) (names : List (List Char)) (cs : List Char) :
    Option (GroupStart × List (List Char) × List Char) :=
  match skipSpace x cs with
  | '?' :: '=' :: _ => none
  | '?' :: '!' :: _ => none
  | '?' :: '<' :: '=' :: _ => none
  | '?' :: '<' :: '!' :: _ => none
  | '?' :: 'P' :: '<' :: rest => named rest
  | '?' :: '<' :: rest => named rest
  | '?' :: rest =>
    match readFlags none [] rest with
    | some (changes, ')', rest) =>
      if changes.isEmpty then none else some (.flags changes, names, rest)
    | some (changes, _, rest) => some (.group false changes, names, rest)
    | none => none
  | rest => some (.group true [], names, rest)
where
  named (rest : List Char) : Option (GroupStart × List (List Char) × List Char) := do
    let (name, rest) ← readGroupName rest
    if names.contains name then none else some (.group true [], name :: names, rest)

/-! ## Repetitions -/

/-- A count, with blanks around it, and in the mode that ignores space between its digits. -/
def readCountDigits (x : Bool) : Nat → List Char → List Char × List Char
  | 0, cs => ([], cs)
  | fuel + 1, cs =>
    match cs with
    | c :: rest =>
      if c.isDigit then
        let r := readCountDigits x fuel (skipSpace x rest)
        (c :: r.1, r.2)
      else ([], cs)
    | [] => ([], [])

/-- Blanks, and in the mode that ignores space comments after them. -/
def skipBlanks (x : Bool) (cs : List Char) : List Char :=
  match cs with
  | c :: _ => if isBlank c then skipSpace x (dropBlanks cs) else cs
  | [] => []

def readCount (x : Bool) (cs : List Char) : Option (Nat × List Char) :=
  let cs := dropBlanks cs
  let (ds, rest) := readCountDigits x (cs.length + 1) cs
  let n := ds.foldl (fun n c => n * 10 + (c.toNat - '0'.toNat)) 0
  if ds.isEmpty || 0x100000000 ≤ n then none else some (n, skipBlanks x rest)

/-- A lazy repetition is marked by a question mark. -/
def skipLazy : List Char → List Char
  | '?' :: rest => rest
  | cs => cs

/-- The bounds of a counted repetition after the opening brace. -/
def readBounds (x : Bool) (cs : List Char) : Option (Nat × Option Nat × List Char) := do
  let (min, rest) ← readCount x (skipSpace x cs)
  match rest with
  | '\x7d' :: rest => some (min, some min, skipLazy (skipSpace x rest))
  | ',' :: rest =>
    match skipSpace x rest with
    | '\x7d' :: rest => some (min, none, skipLazy (skipSpace x rest))
    | rest =>
      let (max, rest) ← readCount x rest
      match rest with
      | '\x7d' :: rest =>
        if min ≤ max then some (min, some max, skipLazy (skipSpace x rest)) else none
      | _ => none
  | _ => none

/-- The last of the parts, repeated. There must be one, and flags cannot be repeated. -/
def repeatLast (min : Nat) (max : Option Nat) : List Tree → Option (List Tree)
  | [] => none
  | .empty :: _ => none
  | .flags _ :: _ => none
  | t :: parts => some (.repeated t min max :: parts)

/-! ## Patterns -/

/-- The reader's place: whether space is ignored, the names of groups so far, and the text
to come. -/
structure Place where
  ignoreSpace : Bool
  names : List (List Char)
  rest : List Char

/-- The branches read so far and the last one. -/
def closeBranches (branches parts : List Tree) : Tree :=
  match branches with
  | [] => Tree.ofParts parts.reverse
  | _ => .alternation (Tree.ofParts parts.reverse :: branches).reverse

/-- An element of one character or an escape. -/
def readAtom (x : Bool) : List Char → Option (Atom × List Char)
  | '\\' :: rest => readEscape x rest
  | '.' :: rest => some (.anyChar, rest)
  | '^' :: rest => some (.assertion, rest)
  | '$' :: rest => some (.assertion, rest)
  | c :: rest => some (.char c false, rest)
  | [] => none

/-- The rest of a group up to its closing parenthesis, or of the pattern up to its end;
`branches` and `parts` are in reverse. -/
def readRest (inGroup : Bool) : Nat → List Tree → List Tree → Place → Option (Tree × Place)
  | 0, _, _, _ => none
  | fuel + 1, branches, parts, p =>
    let x := p.ignoreSpace
    match skipSpace x p.rest with
    | [] => if inGroup then none else some (closeBranches branches parts, { p with rest := [] })
    | '(' :: rest =>
      match readGroupStart x p.names rest with
      | none => none
      | some (.flags changes, names, rest) =>
        readRest inGroup fuel branches (.flags changes :: parts)
          ⟨changes.apply .ignoreSpace x, names, rest⟩
      | some (.group capturing changes, names, rest) =>
        match readRest true fuel [] [] ⟨changes.apply .ignoreSpace x, names, rest⟩ with
        | none => none
        | some (inner, q) =>
          readRest inGroup fuel branches (.group capturing changes inner :: parts)
            { q with ignoreSpace := x }
    | ')' :: rest =>
      if inGroup then some (closeBranches branches parts, { p with rest := rest }) else none
    | '|' :: rest =>
      readRest inGroup fuel (Tree.ofParts parts.reverse :: branches) [] { p with rest := rest }
    | '[' :: rest =>
      match readClass x rest with
      | none => none
      | some (t, rest) => readRest inGroup fuel branches (t :: parts) { p with rest := rest }
    | '?' :: rest =>
      again fuel branches { p with rest := skipLazy rest } (repeatLast 0 (some 1) parts)
    | '*' :: rest =>
      again fuel branches { p with rest := skipLazy rest } (repeatLast 0 none parts)
    | '+' :: rest =>
      again fuel branches { p with rest := skipLazy rest } (repeatLast 1 none parts)
    | '\x7b' :: rest =>
      match readBounds x rest with
      | none => none
      | some (min, max, rest) =>
        again fuel branches { p with rest := rest } (repeatLast min max parts)
    | cs =>
      match readAtom x cs with
      | none => none
      | some (a, rest) => readRest inGroup fuel branches (.atom a :: parts) { p with rest := rest }
where
  again (fuel : Nat) (branches : List Tree) (p : Place) (parts : Option (List Tree)) :
      Option (Tree × Place) :=
    match parts with
    | some parts => readRest inGroup fuel branches parts p
    | none => none

/-- The tree of a pattern. -/
def Tree.read? (cs : List Char) : Option Tree :=
  (readRest false (2 * cs.length + 2) [] [] ⟨false, [], cs⟩).map (·.1)

end GridQuery.Pattern
