import GridQuery.Json.Basic

/-!
# JSON documents as they stand in a text

A reader that wants a particular form has to say what is the first thing wrong with a text:
a wrong form near the start is found before a missing bracket near the end. So the text is
first turned into a tree that keeps what is there and marks where the text breaks off, and
the forms are read from the tree (`GridQuery.Json.Decode`), from left to right.
-/

namespace GridQuery

/-- What a text holds where a value is expected. -/
inductive Document where
  | null
  | bool (b : Bool)
  /-- Nothing for a number beyond the doubles. -/
  | number (n : Option Number)
  /-- Nothing for a string with half a surrogate pair. -/
  | string (s : Option String)
  /-- The items up to the closing bracket, or up to where the text breaks off. -/
  | array (items : List Document) (closed : Bool)
  /-- The fields up to the closing brace, or up to where the text breaks off. -/
  | object (fields : List (Option String × Document)) (closed : Bool)
  /-- An object that holds something other than a name at its start. -/
  | nameless (first : Document)
  /-- No value, or one that breaks off inside a token. -/
  | broken

namespace Document

def isSpace (c : Char) : Bool := c == ' ' || c == '\n' || c == '\t' || c == '\r'

def dropSpace (cs : List Char) : List Char := cs.dropWhile isSpace

/-! ## Strings -/

/-- A piece of a string: a character, or a code unit written in hexadecimal. -/
inductive StringUnit where
  | char (c : Char)
  | code (n : Nat)

def hexValue? (c : Char) : Option Nat :=
  if c.isDigit then some (c.toNat - '0'.toNat)
  else if 'a' ≤ c ∧ c ≤ 'f' then some (c.toNat - 'a'.toNat + 10)
  else if 'A' ≤ c ∧ c ≤ 'F' then some (c.toNat - 'A'.toNat + 10)
  else none

def hexCode? (a b c d : Char) : Option Nat := do
  let a ← hexValue? a
  let b ← hexValue? b
  let c ← hexValue? c
  let d ← hexValue? d
  return a * 4096 + b * 256 + c * 16 + d

/-- The character that a backslash and `c` stand for. -/
def escaped? : Char → Option Char
  | '"' => some '"'
  | '\\' => some '\\'
  | '/' => some '/'
  | 'b' => some '\x08'
  | 'f' => some '\x0c'
  | 'n' => some '\n'
  | 'r' => some '\r'
  | 't' => some '\t'
  | _ => none

/-- The pieces of a string up to its closing quote, and the text after it. -/
def stringUnits : List Char → Option (List StringUnit × List Char)
  | [] => none
  | '"' :: rest => some ([], rest)
  | '\\' :: 'u' :: a :: b :: c :: d :: rest =>
    match hexCode? a b c d with
    | some n => (stringUnits rest).map fun r => (.code n :: r.1, r.2)
    | none => none
  | '\\' :: c :: rest =>
    match escaped? c with
    | some e => (stringUnits rest).map fun r => (.char e :: r.1, r.2)
    | none => none
  | c :: rest =>
    if c.toNat < 0x20 then none
    else (stringUnits rest).map fun r => (.char c :: r.1, r.2)

/-- Joins surrogate pairs; fails on half a pair. -/
def joinUnits : List StringUnit → Option (List Char)
  | [] => some []
  | .char c :: rest => (joinUnits rest).map (c :: ·)
  | .code n :: rest =>
    if 0xdc00 ≤ n ∧ n ≤ 0xdfff then none
    else if 0xd800 ≤ n ∧ n ≤ 0xdbff then
      match rest with
      | .code m :: rest =>
        if 0xdc00 ≤ m ∧ m ≤ 0xdfff then
          (joinUnits rest).map (Char.ofNat (0x10000 + (n - 0xd800) * 0x400 + (m - 0xdc00)) :: ·)
        else none
      | _ => none
    else (joinUnits rest).map (Char.ofNat n :: ·)

def ofUnits (units : List StringUnit) : Option String := (joinUnits units).map String.ofList

/-! ## Numbers -/

/-- Digits collected into a word of sixty-four bits. A digit that does not fit any more ends
the collection; the digits after it are counted but not used. -/
structure Significand where
  value : Nat
  /-- Digits taken. -/
  taken : Nat
  /-- Digits left over. -/
  dropped : Nat

def Significand.extend (s : Significand) (digits : List Char) : Significand :=
  digits.foldl (fun s c =>
    let v := s.value * 10 + (c.toNat - '0'.toNat)
    if s.dropped = 0 ∧ v < 0x10000000000000000 then { s with value := v, taken := s.taken + 1 }
    else { s with dropped := s.dropped + 1 }) s

/-- The double for `value * 10 ^ exponent`, reached by scaling with one power of ten, or with
several of at most 308. Nothing if it is beyond the doubles. -/
def scaled (value : Double) (exponent : Int) : Option Double :=
  if 0 ≤ exponent then
    if exponent ≤ 308 then
      let x := value.mulTenPow exponent.toNat
      if x.isFinite then some x else none
    else if value.rank = 0 then some value else none
  else
    let steps := if exponent < -308 then ((-exponent).toNat - 1) / 308 else 0
    -- after four steps nothing is left of any double
    let x := (List.range (min steps 4)).foldl (fun x _ => x.divTenPow 308) value
    if x.rank = 0 then some x
    else some (x.divTenPow ((-exponent).toNat - steps * 308))

/-- The number of a literal: digits before the point, digits behind it if there is a point,
and an exponent if there is one. -/
def literalNumber (negative : Bool) (whole : List Char) (part : Option (List Char))
    (exponent : Option Int) : Option Number :=
  let w := Significand.extend ⟨0, 0, 0⟩ whole
  let n : Int := if negative then -(w.value : Int) else w.value
  if part.isNone ∧ exponent.isNone ∧ w.dropped = 0 ∧ ¬(negative ∧ w.value = 0) ∧
      -0x8000000000000000 ≤ n then
    some (.int n)
  else
    -- digits behind the point start a new overflow count: each one taken lowers the exponent
    let f := Significand.extend ⟨w.value, 0, 0⟩ (part.getD [])
    let shift : Int := w.dropped - f.taken
    let e := exponent.getD 0
    let clamp (n : Int) : Int := max (-0x80000000) (min 0x7fffffff n)
    let x :=
      if 0x80000000 ≤ e.natAbs then
        if f.value ≠ 0 ∧ 0 < e then none else some (Double.zero false)
      else scaled (Double.ofRatio false f.value 1) (clamp (shift + e))
    x.map fun x => .double { x with negative := negative }

/-- The exponent of a literal, after the letter. -/
def exponentDigits (cs : List Char) : Option (Int × List Char) :=
  let (negative, cs) := match cs with
    | '-' :: cs => (true, cs)
    | '+' :: cs => (false, cs)
    | cs => (false, cs)
  let ds := cs.takeWhile Char.isDigit
  if ds.isEmpty then none
  else
    let n : Int := ds.foldl (fun n c => n * 10 + (c.toNat - '0'.toNat)) 0
    some (if negative then -n else n, cs.dropWhile Char.isDigit)

/-- A number literal after its sign, and the text behind it. -/
def numberLiteral (negative : Bool) (cs : List Char) : Option (Option Number × List Char) :=
  let whole := cs.takeWhile Char.isDigit
  let rest := cs.dropWhile Char.isDigit
  if whole.isEmpty ∨ (whole.head? = some '0' ∧ 1 < whole.length) then none
  else
    let point := match rest with
      | '.' :: rest =>
        let part := rest.takeWhile Char.isDigit
        if part.isEmpty then none else some (some part, rest.dropWhile Char.isDigit)
      | rest => some (none, rest)
    match point with
    | none => none
    | some (part, rest) =>
      match rest with
      | c :: tail =>
        if c = 'e' ∨ c = 'E' then
          (exponentDigits tail).map fun (e, rest) =>
            (literalNumber negative whole part (some e), rest)
        else some (literalNumber negative whole part none, rest)
      | [] => some (literalNumber negative whole part none, [])

/-! ## Values -/

/-- A token with the text behind it. -/
def token (t : Option (Document × List Char)) : Document × Option (List Char) :=
  match t with
  | some (d, rest) => (d, some rest)
  | none => (.broken, none)

mutual

/-- A value and the text behind it; no text if the value breaks off. Every step uses up one
unit of fuel, and no text needs more than two for each of its characters. -/
def readValue : Nat → List Char → Document × Option (List Char)
  | 0, _ => (.broken, none)
  | fuel + 1, cs =>
    match dropSpace cs with
    | 'n' :: 'u' :: 'l' :: 'l' :: rest => (.null, some rest)
    | 't' :: 'r' :: 'u' :: 'e' :: rest => (.bool true, some rest)
    | 'f' :: 'a' :: 'l' :: 's' :: 'e' :: rest => (.bool false, some rest)
    | '"' :: rest => token ((stringUnits rest).map fun r => (.string (ofUnits r.1), r.2))
    | '-' :: rest => token ((numberLiteral true rest).map fun r => (.number r.1, r.2))
    | '[' :: rest =>
      match dropSpace rest with
      | ']' :: rest => (.array [] true, some rest)
      | rest =>
        let (items, rest) := readItems fuel rest
        (.array items rest.isSome, rest)
    | '\x7b' :: rest =>
      match dropSpace rest with
      | '\x7d' :: rest => (.object [] true, some rest)
      | '"' :: rest =>
        let (fields, rest) := readFields fuel ('"' :: rest)
        (.object fields rest.isSome, rest)
      | rest => (.nameless (readValue fuel rest).1, none)
    | cs => token ((numberLiteral false cs).map fun r => (.number r.1, r.2))

/-- The items of an array from a place where one must stand. -/
def readItems : Nat → List Char → List Document × Option (List Char)
  | 0, _ => ([], none)
  | fuel + 1, cs =>
    match readValue fuel cs with
    | (item, none) => ([item], none)
    | (item, some rest) =>
      match dropSpace rest with
      | ']' :: rest => ([item], some rest)
      | ',' :: rest =>
        match dropSpace rest with
        | ']' :: _ => ([item], none)
        | rest =>
          let (items, rest) := readItems fuel rest
          (item :: items, rest)
      | _ => ([item], none)

/-- The fields of an object from a place where a name must stand. -/
def readFields : Nat → List Char → List (Option String × Document) × Option (List Char)
  | 0, _ => ([], none)
  | fuel + 1, cs =>
    match cs with
    | '"' :: rest =>
      match stringUnits rest with
      | none => ([], none)
      | some (units, rest) =>
        let name := ofUnits units
        match dropSpace rest with
        | ':' :: rest =>
          match readValue fuel rest with
          | (value, none) => ([(name, value)], none)
          | (value, some rest) =>
            match dropSpace rest with
            | '\x7d' :: rest => ([(name, value)], some rest)
            | ',' :: rest =>
              let (fields, rest) := readFields fuel (dropSpace rest)
              ((name, value) :: fields, rest)
            | _ => ([(name, value)], none)
        | _ => ([(name, .broken)], none)
    | _ => ([], none)

end

/-- The value at the start of a text, and whether nothing but space follows it. -/
def ofText (s : String) : Document × Bool :=
  let cs := s.toList
  match readValue (2 * cs.length + 2) cs with
  | (d, some rest) => (d, (dropSpace rest).isEmpty)
  | (d, none) => (d, false)

/-- The value does not break off. -/
def isWhole : Document → Bool
  | .array _ closed => closed
  | .object _ closed => closed
  | .nameless _ => false
  | .broken => false
  | _ => true

end Document

end GridQuery
