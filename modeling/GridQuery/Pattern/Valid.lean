import GridQuery.Pattern.Reader

/-!
# Valid search patterns

A pattern that can be read is valid when it is not nested too deeply, when it means something
with the flags in force, and when its compiled form stays within ten mebibytes. Without
Unicode a pattern must not be able to match a part of a character, so classes must stay within
ASCII and nothing may be negated.
-/

namespace GridQuery.Pattern

/-! ## Meaning -/

namespace ClassSet

/-- The set means something, with or without Unicode. -/
def isMeaningful (unicode : Bool) : ClassSet → Bool
  | .char c => unicode || c.toNat < 0x80
  | .range a b => unicode || (a.toNat < 0x80 && b.toNat < 0x80)
  | .posix _ negated => unicode || !negated
  | .letterClass _ negated => unicode || !negated
  | .property q _ => unicode && q.find?.isSome
  | .union parts => parts.attach.all fun ⟨p, _⟩ => isMeaningful unicode p
  | .bracketed negated inner => (unicode || !negated) && isMeaningful unicode inner
  | .operation left right => isMeaningful unicode left && isMeaningful unicode right

end ClassSet

def Atom.isMeaningful (unicode : Bool) : Atom → Bool
  | .char c asByte => unicode || !asByte || c.toNat < 0x80
  | .anyChar => unicode
  | .assertion => true
  | .letterClass _ negated => unicode || !negated
  | .property q _ => unicode && q.find?.isSome

namespace Tree

mutual

/-- Whether Unicode is in force after a meaningful pattern, nothing for one without meaning. -/
def unicodeAfter (unicode : Bool) : Tree → Option Bool
  | .empty => some unicode
  | .flags changes => some (changes.apply .unicode unicode)
  | .atom a => if a.isMeaningful unicode then some unicode else none
  | .bracketed negated inner =>
    if (unicode || !negated) && inner.isMeaningful unicode then some unicode else none
  | .repeated inner _ _ => unicodeAfter unicode inner
  | .group _ changes inner =>
    (unicodeAfter (changes.apply .unicode unicode) inner).map fun _ => unicode
  | .alternation branches => unicodeAfterAll unicode branches
  | .concat parts => unicodeAfterAll unicode parts

def unicodeAfterAll (unicode : Bool) : List Tree → Option Bool
  | [] => some unicode
  | t :: ts =>
    match unicodeAfter unicode t with
    | some u => unicodeAfterAll u ts
    | none => none

end

end Tree

/-! ## Room -/

/-- The room one state of a compiled pattern takes, in bytes. -/
def stateRoom : Nat := 32

/-- The room a class takes beside its stretches. -/
def classRoom : Nat := 64

/-- The room of a range of characters within a class: one stretch for ASCII, else the
sequences of bytes that it falls into. -/
def rangeRoom (first last : Char) : Nat :=
  if last.toNat < 0x80 then 8
  else if first = last then (stateRoom + 1) * first.utf8Size + 4
  else 180

def letterRoom (unicode : Bool) (k : LetterClass) (negated : Bool) : Nat :=
  match unicode, k, negated with
  | true, .digit, false => 5184
  | true, .digit, true => 12824
  | true, .space, false => 680
  | true, .space, true => 1924
  | true, .word, false => 50316
  | true, .word, true => 46900
  | false, .digit, _ => classRoom + 8
  | false, .space, _ => classRoom + 16
  | false, .word, _ => classRoom + 32

def propertyRoom (q : PropertyQuery) (negated : Bool) : Nat :=
  match q.find? with
  | some p => if negated then p.roomOutside else p.room
  | none => 0

/-- The room of any character, or any but the newline. -/
def anyRoom : Nat := 1000

/-- The room of a set beyond `classRoom`. -/
def ClassSet.room (unicode : Bool) : ClassSet → Nat
  | .char c => rangeRoom c c
  | .range a b => rangeRoom a b
  | .posix stretches negated => if negated then anyRoom else 8 * stretches
  | .letterClass k negated => letterRoom unicode k negated - classRoom
  | .property q negated => propertyRoom q negated - classRoom
  | .union parts => (parts.attach.map fun ⟨p, _⟩ => p.room unicode).foldl (· + ·) 0
  | .bracketed negated inner => inner.room unicode + if negated then anyRoom else 0
  | .operation left right => max (left.room unicode) (right.room unicode)

/-- What a part of a pattern takes: its room, and whether it matches nothing but the empty
text. -/
structure Extent where
  room : Nat
  emptyOnly : Bool

/-- The flags that bear on the room. -/
structure RoomFlags where
  unicode : Bool
  ignoreCase : Bool

def RoomFlags.apply (f : RoomFlags) (changes : FlagChanges) : RoomFlags :=
  ⟨changes.apply .unicode f.unicode, changes.apply .ignoreCase f.ignoreCase⟩

def Atom.extent (f : RoomFlags) : Atom → Extent
  | .char c _ =>
    if f.ignoreCase && c.isAlpha then ⟨classRoom + 16, false⟩
    else ⟨stateRoom * c.utf8Size, false⟩
  | .anyChar => ⟨anyRoom, false⟩
  | .assertion => ⟨stateRoom, true⟩
  | .letterClass k negated => ⟨letterRoom f.unicode k negated, false⟩
  | .property q negated => ⟨propertyRoom q negated, false⟩

/-- A repetition: its part as often as it must match, and once more for each time it may. -/
def Extent.repeated (e : Extent) (least : Nat) (most : Option Nat) : Extent :=
  let least := if e.emptyOnly then min least 1 else least
  let most := if e.emptyOnly then some (min (most.getD 1) 1) else most
  match most with
  | some 0 => ⟨stateRoom, true⟩
  | some n => ⟨e.room * max n 1 + (n - least) * (stateRoom + 8) + stateRoom, e.emptyOnly⟩
  | none => ⟨e.room * max least 1 + 3 * (stateRoom + 8), e.emptyOnly⟩

namespace Tree

mutual

/-- The extent of a pattern, and the flags in force after it. -/
def extent (f : RoomFlags) : Tree → Extent × RoomFlags
  | .empty => (⟨stateRoom, true⟩, f)
  | .flags changes => (⟨0, true⟩, f.apply changes)
  | .atom a => (a.extent f, f)
  | .bracketed negated inner =>
    (⟨classRoom + inner.room f.unicode + if negated then anyRoom else 0, false⟩, f)
  | .repeated inner least most => ((extent f inner).1.repeated least most, f)
  | .group capturing changes inner =>
    let e := (extent (f.apply changes) inner).1
    (if capturing then { e with room := e.room + 2 * stateRoom } else e, f)
  | .alternation branches =>
    let (e, f) := extentAll f branches
    (⟨e.room + 2 * stateRoom + 4 * branches.length, e.emptyOnly⟩, f)
  | .concat parts => extentAll f parts

/-- The extents of several patterns taken together. -/
def extentAll (f : RoomFlags) : List Tree → Extent × RoomFlags
  | [] => (⟨0, true⟩, f)
  | t :: ts =>
    let (e, f) := extent f t
    let (r, f) := extentAll f ts
    (⟨e.room + r.room, e.emptyOnly && r.emptyOnly⟩, f)

end

/-- The deepest nesting that is allowed. -/
def maxDepth : Nat := 250

/-- The room that is allowed, in bytes. -/
def maxRoom : Nat := 10 * 0x100000

/-- The room of what surrounds every pattern: the start anywhere, and the match. -/
def frameRoom : Nat := 6 * stateRoom

/-- The pattern is nested within bounds, means something and fits. -/
def isValid (t : Tree) : Bool :=
  t.depth ≤ maxDepth && (t.unicodeAfter true).isSome &&
    (t.extent ⟨true, false⟩).1.room + frameRoom ≤ maxRoom

end Tree

/-- The text is a valid pattern. -/
def isValid (s : String) : Bool :=
  match Tree.read? s.toList with
  | some t => t.isValid
  | none => false

end GridQuery.Pattern
