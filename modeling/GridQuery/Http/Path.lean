/-!
# Paths

The path of a request, up to its query. Its segments are compared as they are written; a name
among them is decoded, where a percent sign and two hexadecimal digits stand for a byte.
-/

namespace GridQuery.Http

/-- The path without the query and what follows it. -/
def pathOnly (target : String) : List Char :=
  target.toList.takeWhile fun c => c != '?' && c != '#'

/-- The segments between slashes. -/
def splitSegments : List Char → List (List Char)
  | [] => [[]]
  | '/' :: cs => [] :: splitSegments cs
  | c :: cs =>
    match splitSegments cs with
    | segment :: rest => (c :: segment) :: rest
    | [] => [[c]]

/-- The segments behind the leading slash. -/
def segments (target : String) : List String :=
  match pathOnly target with
  | '/' :: cs => (splitSegments cs).map String.ofList
  | _ => []

def hexByte? (c : UInt8) : Option UInt8 :=
  if 0x30 ≤ c ∧ c ≤ 0x39 then some (c - 0x30)
  else if 0x61 ≤ c ∧ c ≤ 0x66 then some (c - 0x61 + 10)
  else if 0x41 ≤ c ∧ c ≤ 0x46 then some (c - 0x41 + 10)
  else none

/-- Replaces percent signs with two digits by the bytes they stand for. -/
def decodeBytes : List UInt8 → List UInt8
  | 0x25 :: a :: b :: rest =>
    match hexByte? a, hexByte? b with
    | some x, some y => (x * 16 + y) :: decodeBytes rest
    | _, _ => 0x25 :: decodeBytes (a :: b :: rest)
  | b :: rest => b :: decodeBytes rest
  | [] => []

/-- The name that a segment stands for, unless its bytes are no text. -/
def decodeSegment (s : String) : Option String :=
  String.fromUTF8? ⟨(decodeBytes s.toUTF8.toList).toArray⟩

end GridQuery.Http
