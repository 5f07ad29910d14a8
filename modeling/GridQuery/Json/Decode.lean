import GridQuery.Json.Document
import GridQuery.Json.Text
import GridQuery.Text.Quoted

/-!
# Reading typed values from a document

A form reads its part of the tree from left to right and reports the first thing that is
wrong: either the text breaks off (`DecodeFault.malformed`), or it holds something other than
what is wanted.

A record is an object, or an array of its fields in their order; a choice is the name of an
alternative, or an object whose only member is named for it. What is kept of a document may
be nested `Document.maxDepth` levels deep; `room` counts the levels that are left.
-/

namespace GridQuery

/-- What stands in a document, as a fault names it. -/
inductive Shape where
  | null
  | bool (b : Bool)
  | number (n : Number)
  | string (s : String)
  | sequence
  | map
  /-- The bare name of an alternative that carries a value. -/
  | bareName

/-- Why a document does not have the wanted form. -/
inductive DecodeFault where
  /-- The text breaks off, or goes on where it should end. -/
  | malformed
  | missingField (name : String)
  | duplicateField (name : String)
  | unknownAlternative (name : String) (known : List String)
  | wrongShape (found : Shape) (wanted : String)
  | wrongLength (length : Nat) (wanted : String)
  /-- A value that cannot stand for a `wanted`. -/
  | unfit (wanted : String) (found : Json)

namespace Shape

def text : Shape → String
  | .null => "null"
  | .bool b => "boolean `" ++ (if b then "true" else "false") ++ "`"
  | .number (.int n) => "integer `" ++ toString n ++ "`"
  | .number (.double x) => "floating point `" ++ x.text ++ "`"
  | .string s => "string " ++ Text.quoted s
  | .sequence => "sequence"
  | .map => "map"
  | .bareName => "unit variant"

end Shape

namespace DecodeFault

def message : DecodeFault → String
  | .malformed => "malformed JSON"
  | .missingField name => "missing field `" ++ name ++ "`"
  | .duplicateField name => "duplicate field `" ++ name ++ "`"
  | .unknownAlternative name known =>
    "unknown variant `" ++ name ++ "`, expected one of " ++
      String.intercalate ", " (known.map fun k => "`" ++ k ++ "`")
  | .wrongShape found wanted => "invalid type: " ++ found.text ++ ", expected " ++ wanted
  | .wrongLength n wanted => "invalid length " ++ toString n ++ ", expected " ++ wanted
  | .unfit wanted (.string s) => "expected " ++ wanted ++ ", got '" ++ s ++ "'"
  | .unfit wanted found => "expected " ++ wanted ++ ", got " ++ found.text

end DecodeFault

namespace Document

/-- The number of levels of nesting that a kept part of a document may have. -/
def maxDepth : Nat := 127

def shape? : Document → Option Shape
  | .null => some .null
  | .bool b => some (.bool b)
  | .number (some n) => some (.number n)
  | .string (some s) => some (.string s)
  | .array .. => some .sequence
  | .object .. => some .map
  | .nameless _ => some .map
  | _ => none

/-- The fault of a document that does not start like a `wanted`. -/
def mismatch (d : Document) (wanted : String) : DecodeFault :=
  match d.shape? with
  | some s => .wrongShape s wanted
  | none => .malformed

/-! ## Scalars -/

def asString : Document → Except DecodeFault String
  | .string (some s) => .ok s
  | d => .error (d.mismatch "a string")

def asBool : Document → Except DecodeFault Bool
  | .bool b => .ok b
  | d => .error (d.mismatch "a boolean")

def asUnit : Document → Except DecodeFault Unit
  | .null => .ok ()
  | d => .error (d.mismatch "unit")

/-- Null for nothing, or what `f` reads. -/
def asOption {α : Type} (f : Document → Except DecodeFault α) :
    Document → Except DecodeFault (Option α)
  | .null => .ok none
  | d => (f d).map some

/-! ## Any value -/

mutual

/-- Any value. -/
def asJson (room : Nat) : Document → Except DecodeFault Json
  | .null => .ok .null
  | .bool b => .ok (.bool b)
  | .number (some n) => .ok (.number n)
  | .string (some s) => .ok (.string s)
  | .array items closed =>
    if room = 0 then .error .malformed
    else do
      let values ← asJsonItems (room - 1) items
      if closed then .ok (.array values) else .error .malformed
  | .object fields closed =>
    if room = 0 then .error .malformed
    else do
      let members ← asJsonFields (room - 1) fields []
      if closed then .ok (.object members) else .error .malformed
  | _ => .error .malformed

def asJsonItems (room : Nat) : List Document → Except DecodeFault (List Json)
  | [] => .ok []
  | d :: ds => do
    let v ← asJson room d
    let vs ← asJsonItems room ds
    return v :: vs

def asJsonFields (room : Nat) :
    List (Option String × Document) → Members → Except DecodeFault Members
  | [], members => .ok members
  | (some name, d) :: rest, members => do
    let v ← asJson room d
    asJsonFields room rest (members.insert name v)
  | (none, _) :: _, _ => .error .malformed

end

/-! ## Lists and maps -/

/-- A list whose items `f` reads. -/
def asList {α : Type} (f : Nat → Document → Except DecodeFault α) (room : Nat) :
    Document → Except DecodeFault (List α)
  | .array items closed =>
    if room = 0 then .error .malformed
    else do
      let values ← items.mapM (f (room - 1))
      if closed then .ok values else .error .malformed
  | d => .error (d.mismatch "a sequence")

def fieldsAsMap {α : Type} (f : Document → Except DecodeFault α) :
    List (Option String × Document) → Except DecodeFault (List (String × α))
  | [] => .ok []
  | (some name, d) :: rest => do
    let v ← f d
    let vs ← fieldsAsMap f rest
    return (name, v) :: vs
  | (none, _) :: _ => .error .malformed

/-- The members of an object in their order, repeated names included. -/
def asMap {α : Type} (f : Nat → Document → Except DecodeFault α) (room : Nat) :
    Document → Except DecodeFault (List (String × α))
  | .object fields closed =>
    if room = 0 then .error .malformed
    else do
      let values ← fieldsAsMap (f (room - 1)) fields
      if closed then .ok values else .error .malformed
  | .nameless _ => .error .malformed
  | d => .error (d.mismatch "a map")

/-! ## Records -/

/-- A field of a record that is collected in drafts of type `σ`. -/
structure Field (σ : Type) where
  name : String
  required : Bool
  /-- The draft holds the field already. -/
  isSet : σ → Bool
  read : Nat → Document → σ → Except DecodeFault σ

/-- The text by which a fault names a record. -/
def recordName (name : String) : String := "struct " ++ name

/-- The fields of an object, in the order of the text. Fields without a meaning are passed
over. -/
def readNamed {σ : Type} (fields : List (Field σ)) (room : Nat) :
    List (Option String × Document) → σ → Except DecodeFault σ
  | [], draft => .ok draft
  | (none, _) :: _, _ => .error .malformed
  | (some name, d) :: rest, draft =>
    match fields.find? (·.name == name) with
    | none => if d.isWhole then readNamed fields room rest draft else .error .malformed
    | some field =>
      if field.isSet draft then .error (.duplicateField name)
      else do
        let draft ← field.read room d draft
        readNamed fields room rest draft

/-- The items of an array as the fields of a record, in their order. -/
def readPositional {σ : Type} (wanted : String) (room : Nat) (closed : Bool) :
    List (Field σ) → Nat → List Document → σ → Except DecodeFault σ
  | [], _, [], draft => if closed then .ok draft else .error .malformed
  | [], _, _ :: _, _ => .error .malformed
  | field :: fields, n, [], draft =>
    if !closed then .error .malformed
    else if field.required then .error (.wrongLength n wanted)
    else readPositional wanted room closed fields n [] draft
  | field :: fields, n, d :: ds, draft => do
    let draft ← field.read room d draft
    readPositional wanted room closed fields (n + 1) ds draft

/-- A record, collected from an empty draft. -/
def asRecord {σ : Type} (name : String) (fields : List (Field σ)) (empty : σ) (room : Nat) :
    Document → Except DecodeFault σ
  | .object entries closed =>
    if room = 0 then .error .malformed
    else do
      let draft ← readNamed fields (room - 1) entries empty
      if !closed then .error .malformed
      else match fields.find? fun f => f.required && !f.isSet draft with
        | some f => .error (.missingField f.name)
        | none => .ok draft
  | .array items closed =>
    if room = 0 then .error .malformed
    else
      readPositional (recordName name ++ " with " ++ toString fields.length ++ " elements")
        (room - 1) closed fields 0 items empty
  | .nameless _ => .error .malformed
  | d => .error (d.mismatch (recordName name))

/-! ## Choices -/

/-- An alternative of a choice. -/
structure Alternative (α : Type) where
  name : String
  /-- What the name alone means. -/
  bare : Except DecodeFault α
  /-- What an object with this member means. -/
  carrying : Nat → Document → Except DecodeFault α

/-- An alternative without a value of its own. -/
def Alternative.plain {α : Type} (name : String) (value : α) : Alternative α :=
  ⟨name, .ok value, fun _ d => d.asUnit.map fun _ => value⟩

/-- An alternative that carries a value. -/
def Alternative.withValue {α : Type} (name : String) (f : Document → Except DecodeFault α) :
    Alternative α :=
  ⟨name, .error (.wrongShape .bareName "newtype variant"), fun _ d => f d⟩

def findAlternative {α : Type} (alternatives : List (Alternative α)) (name : String) :
    Except DecodeFault (Alternative α) :=
  match alternatives.find? (·.name == name) with
  | some a => .ok a
  | none => .error (.unknownAlternative name (alternatives.map (·.name)))

/-- A choice among alternatives. -/
def asChoice {α : Type} (alternatives : List (Alternative α)) (room : Nat) :
    Document → Except DecodeFault α
  | .string (some name) => do
    let a ← findAlternative alternatives name
    a.bare
  | .object ((some name, d) :: rest) closed =>
    if room = 0 then .error .malformed
    else do
      let a ← findAlternative alternatives name
      let value ← a.carrying (room - 1) d
      if rest.isEmpty && closed then .ok value else .error .malformed
  | .nameless d =>
    if room = 0 then .error .malformed else .error (d.mismatch "variant identifier")
  | _ => .error .malformed

/-! ## Whole texts -/

/-- Reads a text that holds one document and nothing after it. -/
def decode {α : Type} (f : Nat → Document → Except DecodeFault α) (s : String) :
    Except DecodeFault α := do
  let (d, ends) := ofText s
  let value ← f maxDepth d
  if ends then .ok value else .error .malformed

/-- Reads the document at the start of a text. -/
def decodeStart {α : Type} (f : Nat → Document → Except DecodeFault α) (s : String) :
    Except DecodeFault α :=
  f maxDepth (ofText s).1

end Document

/-- The JSON value of a text. -/
def Json.read? (s : String) : Option Json :=
  match Document.ofText s with
  | (d, true) => (d.asJson Document.maxDepth).toOption
  | _ => none

end GridQuery
