import GridQuery.Text.Printable

/-!
# Quoted text

A text shown between double quotes: a quote, a backslash and the common controls are written
with a backslash, and whatever would not show as a character of its own by its number.
-/

namespace GridQuery.Text

def hexDigits (n : Nat) : List Char := Nat.toDigits 16 n

/-- The form of a character between double quotes. -/
def quotedChar (c : Char) : List Char :=
  match c with
  | '\x00' => ['\\', '0']
  | '\t' => ['\\', 't']
  | '\r' => ['\\', 'r']
  | '\n' => ['\\', 'n']
  | '\\' => ['\\', '\\']
  | '"' => ['\\', '"']
  | _ =>
    if extending.contains c || unprintable.contains c then
      ['\\', 'u', '\x7b'] ++ hexDigits c.toNat ++ ['\x7d']
    else [c]

def quoted (s : String) : String :=
  String.ofList ('"' :: s.toList.flatMap quotedChar ++ ['"'])

end GridQuery.Text
