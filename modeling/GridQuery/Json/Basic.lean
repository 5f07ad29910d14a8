import GridQuery.Number.Double

/-!
# JSON values

The members of an object are kept in increasing order of their names, each name once. Names
are ordered by code points, which is also the order of their bytes.
-/

namespace GridQuery

/-- A number of a JSON value. -/
inductive Number where
  | int (n : Int)
  | double (x : Double)
deriving DecidableEq

/-- A JSON value. -/
inductive Json where
  | null
  | bool (b : Bool)
  | number (n : Number)
  | string (s : String)
  | array (items : List Json)
  | object (members : List (String × Json))

/-- The members of an object, ordered by name. -/
abbrev Members := List (String × Json)

namespace Members

/-- Sets the member `name`, replacing an earlier value. -/
def insert (name : String) (value : Json) : Members → Members
  | [] => [(name, value)]
  | (n, v) :: rest =>
    if name < n then (name, value) :: (n, v) :: rest
    else if name = n then (name, value) :: rest
    else (n, v) :: insert name value rest

def get? (m : Members) (name : String) : Option Json := m.lookup name

/-- The members of a list of pairs, a later pair replacing an earlier one of its name. -/
def ofList (pairs : List (String × Json)) : Members :=
  pairs.foldl (fun m p => m.insert p.1 p.2) []

theorem get?_insert_self (m : Members) (name : String) (v : Json) :
    (m.insert name v).get? name = some v := by
  induction m with
  | nil => simp [insert, get?]
  | cons p rest ih =>
    obtain ⟨n, w⟩ := p
    simp only [insert]
    split
    · simp [get?]
    · split
      · simp [get?]
      · rename_i h
        have h : (name == n) = false := by simpa using h
        simpa [get?, List.lookup_cons, h] using ih

theorem get?_insert_of_ne (m : Members) {name other : String} (h : other ≠ name) (v : Json) :
    (m.insert name v).get? other = m.get? other := by
  have hb : (other == name) = false := by simpa using h
  induction m with
  | nil => simp [insert, get?, List.lookup_cons, hb]
  | cons p rest ih =>
    obtain ⟨n, w⟩ := p
    simp only [insert]
    split
    · simp [get?, List.lookup_cons, hb]
    · split
      · rename_i hn
        subst hn
        simp [get?, List.lookup_cons, hb]
      · by_cases hn : other = n
        · simp [get?, hn]
        · have hn : (other == n) = false := by simpa using hn
          simpa [get?, List.lookup_cons, hn] using ih

end Members

namespace Json

def ofNat (n : Nat) : Json := .number (.int n)

def ofInt (n : Int) : Json := .number (.int n)

/-- An object from its members in any order. -/
def ofPairs (pairs : List (String × Json)) : Json := .object (Members.ofList pairs)

/-- The string, or null. -/
def ofString? : Option String → Json
  | some s => .string s
  | none => .null

/-- The text of a string value. -/
def text? : Json → Option String
  | .string s => some s
  | _ => none

end Json

end GridQuery
