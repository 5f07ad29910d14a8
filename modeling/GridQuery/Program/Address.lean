import GridQuery.Engine.Failure
import GridQuery.Number.Integer
import GridQuery.Settings

/-!
# Addresses

The address on which the server listens, as far as its text tells, and what becomes of a
database's address where no database can be reached.
-/

namespace GridQuery.Program

/-- Why an address is none. -/
inductive AddressFault where
  | noAddress
  | badPort
  | unknownHost
deriving DecidableEq, Repr

def AddressFault.message : AddressFault → String
  | .noAddress => "invalid socket address"
  | .badPort => "invalid port value"
  | .unknownHost => "failed to lookup address information: Temporary failure in name resolution"

/-- A place to listen at. -/
structure Endpoint where
  host : String
  port : Nat
deriving DecidableEq, Repr

/-- The text before the last colon and the text after it. -/
def splitPort (s : String) : Option (String × String) :=
  let cs := s.toList
  if cs.contains ':' then
    let port := (cs.reverse.takeWhile (· ≠ ':')).reverse
    some (String.ofList (cs.take (cs.length - port.length - 1)), String.ofList port)
  else none

/-- A number from 0 to 255 without a leading zero. -/
def isOctet (cs : List Char) : Bool :=
  cs.length ≤ 3 && (cs.length == 1 || cs.head? != some '0') &&
    match IntegerRange.unsigned16.readChars cs with
    | .ok n => n ≤ 255 && cs.all Char.isDigit
    | .error _ => false

/-- The parts between dots. -/
def splitDots : List Char → List (List Char)
  | [] => [[]]
  | '.' :: cs => [] :: splitDots cs
  | c :: cs =>
    match splitDots cs with
    | part :: rest => (c :: part) :: rest
    | [] => [[c]]

def isNumericHost (s : String) : Bool :=
  let parts := splitDots s.toList
  parts.length == 4 && parts.all isOctet

/-- The place that an address names. Only the name of the machine itself is known. -/
def Endpoint.read (s : String) : Except AddressFault Endpoint :=
  match splitPort s with
  | none => .error .noAddress
  | some (host, port) =>
    match IntegerRange.unsigned16.read port with
    | .error _ => .error .badPort
    | .ok n =>
      if isNumericHost host then .ok ⟨host, n.toNat⟩
      else if host = "localhost" then .ok ⟨"127.0.0.1", n.toNat⟩
      else .error .unknownHost

/-- The address starts with the name of a scheme and a colon. -/
def hasScheme (url : String) : Bool :=
  let scheme := url.toList.takeWhile fun c => c.isAlphanum || c == '+' || c == '-' || c == '.'
  match scheme with
  | c :: _ => c.isAlpha && url.toList[scheme.length]? == some ':'
  | [] => false

/-- What keeps the configured database from being reached where there is none. -/
def absence (d : DatabaseSettings) : DatabaseError :=
  match d.url with
  | some url =>
    if hasScheme (Text.trim url) then .unreachable "Network is unreachable (os error 101)"
    else .badAddress "relative URL without a base"
  | none =>
    if d.dialect = .postgres ∧ d.host.toList.head? = some '/' then
      .unreachable "No such file or directory (os error 2)"
    else .unreachable "Network is unreachable (os error 101)"

end GridQuery.Program
