import GridQuery.Json.Basic
import GridQuery.Number.Shortest

/-!
# The compact text of a JSON value

No blanks between tokens; members in the order of their names. Inside strings only the quote,
the backslash and the control characters below the space are escaped.
-/

namespace GridQuery

/-- A number's text; that of a double always shows a point or an exponent. -/
def Number.text : Number → String
  | .int n => toString n
  | .double x => x.text

namespace Json

def hexDigit (n : Nat) : Char := (Nat.digitChar n)

/-- The form of a character inside a string. -/
def stringChar (c : Char) : List Char :=
  match c with
  | '"' => ['\\', '"']
  | '\\' => ['\\', '\\']
  | '\n' => ['\\', 'n']
  | '\r' => ['\\', 'r']
  | '\t' => ['\\', 't']
  | '\x08' => ['\\', 'b']
  | '\x0c' => ['\\', 'f']
  | c =>
    if c.toNat < 0x20 then
      ['\\', 'u', '0', '0', hexDigit (c.toNat / 16), hexDigit (c.toNat % 16)]
    else [c]

def stringText (s : String) : List Char := '"' :: s.toList.flatMap stringChar ++ ['"']

mutual

/-- The characters of a value's text. -/
def chars : Json → List Char
  | .null => "null".toList
  | .bool b => (if b then "true" else "false").toList
  | .number n => n.text.toList
  | .string s => stringText s
  | .array items => '[' :: itemChars items ++ [']']
  | .object members => '\x7b' :: memberChars members ++ ['\x7d']

def itemChars : List Json → List Char
  | [] => []
  | [v] => chars v
  | v :: w :: rest => chars v ++ ',' :: itemChars (w :: rest)

def memberChars : List (String × Json) → List Char
  | [] => []
  | [(k, v)] => stringText k ++ ':' :: chars v
  | (k, v) :: m :: rest => stringText k ++ ':' :: chars v ++ ',' :: memberChars (m :: rest)

end

def text (v : Json) : String := String.ofList v.chars

end Json

end GridQuery
