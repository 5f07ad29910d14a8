import GridQuery.Pattern.Property

/-!
# Search patterns as trees

What a regular expression consists of, as far as it decides whether the expression is valid
and how much room it takes.
-/

namespace GridQuery.Pattern

/-- A class of characters written as a backslash and a letter. -/
inductive LetterClass where
  | digit
  | space
  | word
deriving DecidableEq, Repr

/-- An element without parts. -/
inductive Atom where
  /-- A character; `asByte` if it is written as two hexadecimal digits. -/
  | char (c : Char) (asByte : Bool)
  | anyChar
  /-- A place between characters. -/
  | assertion
  | letterClass (k : LetterClass) (negated : Bool)
  | property (q : PropertyQuery) (negated : Bool)

/-- What stands between brackets. -/
inductive ClassSet where
  | char (c : Char)
  | range (first last : Char)
  /-- A class with a name between colons, of so many stretches. -/
  | posix (stretches : Nat) (negated : Bool)
  | letterClass (k : LetterClass) (negated : Bool)
  | property (q : PropertyQuery) (negated : Bool)
  | union (parts : List ClassSet)
  | bracketed (negated : Bool) (inner : ClassSet)
  /-- An intersection or a difference. -/
  | operation (left right : ClassSet)

/-- A setting that a pattern can switch. -/
inductive Flag where
  | ignoreCase
  | multiLine
  | dotMatchesNewline
  | swapGreed
  | unicode
  | crlf
  | ignoreSpace
deriving DecidableEq, Repr

/-- Switched flags, with the state that each one gets. -/
abbrev FlagChanges := List (Flag × Bool)

def FlagChanges.apply (changes : FlagChanges) (flag : Flag) (state : Bool) : Bool :=
  (changes.lookup flag).getD state

/-- A pattern. -/
inductive Tree where
  | empty
  /-- Flags switched for what follows in the same group. -/
  | flags (changes : FlagChanges)
  | atom (a : Atom)
  | bracketed (negated : Bool) (inner : ClassSet)
  | repeated (inner : Tree) (min : Nat) (max : Option Nat)
  | group (capturing : Bool) (changes : FlagChanges) (inner : Tree)
  | alternation (branches : List Tree)
  | concat (parts : List Tree)

namespace Tree

/-- Several parts in a row. -/
def ofParts : List Tree → Tree
  | [] => .empty
  | [t] => t
  | ts => .concat ts

/-- The deepest nesting of elements with parts. -/
def setDepth : ClassSet → Nat
  | .union [] => 0
  | .union parts => 1 + (parts.attach.map fun ⟨p, _⟩ => setDepth p).foldl max 0
  | .bracketed _ inner => 1 + setDepth inner
  | .operation left right => 1 + max (setDepth left) (setDepth right)
  | _ => 0

def depth : Tree → Nat
  | .bracketed _ inner => 1 + setDepth inner
  | .repeated inner _ _ => 1 + inner.depth
  | .group _ _ inner => 1 + inner.depth
  | .alternation branches => 1 + (branches.attach.map fun ⟨b, _⟩ => b.depth).foldl max 0
  | .concat parts => 1 + (parts.attach.map fun ⟨p, _⟩ => p.depth).foldl max 0
  | _ => 0

end Tree

end GridQuery.Pattern
