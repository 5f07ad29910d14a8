import GridQuery.Text.Case

/-!
# Media types

A media type names a kind of content: a type, a subtype that may end in a suffix behind a
plus, and parameters. It is read here to tell whether a request says that its body is JSON.
-/

namespace GridQuery.Http

/-- The characters of names. -/
def isTokenChar (c : Char) : Bool :=
  c.isAlphanum || "!#$%&'*+-.^_\x60|~".toList.contains c

/-- The characters between the quotes of a parameter's value. -/
def isQuotedChar (c : Char) : Bool := 31 < c.toNat && c.toNat != 127

/-- What follows a quoted value: blanks, then the end or the next parameter. -/
def afterQuoted : List Char → Option (List Char)
  | [] => some []
  | ';' :: rest => some rest
  | ' ' :: rest => afterQuoted rest
  | _ => none

/-- The value of a parameter is a token, or characters in quotes, at least one; the rest after
it. -/
def skipValue : List Char → Option (List Char)
  | ['"'] => none
  | '"' :: c :: rest =>
    if isQuotedChar c then
      match rest.dropWhile fun c => isQuotedChar c && c != '"' with
      | '"' :: rest => afterQuoted rest
      | _ => none
    else none
  | cs =>
    let value := cs.takeWhile isTokenChar
    match cs.dropWhile isTokenChar with
    | [] => some []
    | ';' :: rest => if value.isEmpty then none else some rest
    | _ => none

/-- The parameters can be read: each is a name, an equals sign and a value. -/
def parametersRead : Nat → List Char → Bool
  | 0, _ => false
  | fuel + 1, cs =>
    match cs.dropWhile (· == ' ') with
    | [] => true
    | cs =>
      let name := cs.takeWhile isTokenChar
      match cs.dropWhile isTokenChar with
      | '=' :: rest =>
        if name.isEmpty then false
        else
          match skipValue rest with
          | some rest => parametersRead fuel rest
          | none => false
      | _ => false

/-- The type, and the subtype with the suffix behind its last plus. -/
structure MediaType where
  type : String
  subtype : String
  suffix : Option String
deriving DecidableEq, Repr

namespace MediaType

/-- Splits at the last plus that does not stand at the start. -/
def splitSuffix (cs : List Char) : List Char × Option (List Char) :=
  let tail := (cs.drop 1).reverse.takeWhile (· ≠ '+')
  if (cs.drop 1).contains '+' then
    (cs.take (cs.length - tail.length - 1), some tail.reverse)
  else (cs, none)

def read? (s : String) : Option MediaType :=
  let cs := s.toList
  let type := cs.takeWhile isTokenChar
  match cs.dropWhile isTokenChar with
  | '/' :: rest =>
    let subtype := rest.takeWhile isTokenChar
    let parameters := rest.dropWhile isTokenChar
    let wellFormed := match parameters with
      | [] => true
      | ';' :: rest => !subtype.isEmpty && parametersRead (rest.length + 1) rest
      | _ => false
    if type.isEmpty || !wellFormed then none
    else
      let (name, suffix) := splitSuffix subtype
      let lower (cs : List Char) := Text.asciiLower (String.ofList cs)
      some ⟨lower type, lower name, suffix.map lower⟩
  | _ => none

/-- The content is JSON, or written in JSON. -/
def isJson (m : MediaType) : Bool :=
  m.type == "application" && (m.subtype == "json" || m.suffix == some "json")

end MediaType

/-- A header's value says that the body is JSON. -/
def saysJson (header : String) : Bool :=
  header.toList.all (fun c => (31 < c.toNat && c.toNat < 127) || c == '\t') &&
    ((MediaType.read? header).map (·.isJson)).getD false

end GridQuery.Http
