import GridQuery.Calendar.Read
import GridQuery.Number.Decimal
import GridQuery.Pattern.Valid
import GridQuery.Sql.Dialect
import GridQuery.Text.Case

/-!
# Search terms

What a term asks of a column depends on the column's category only: texts contain it or match
it as a pattern, all other values equal what it denotes. A term that denotes no value of the
category asks for nothing.
-/

namespace GridQuery

/-- Why a term gives no predicate. -/
inductive TermSkip where
  | emptyTerm
  | unparsable
  | unsupportedCategory
deriving DecidableEq, Repr

/-- What a term asks of a column. -/
inductive TermTest where
  | contains (pattern : String)
  | matchesPattern (pattern : String)
  | equals (v : Value)
deriving DecidableEq

namespace TermTest

/-- A backslash before each character that would be a wildcard. -/
def escapeWildcards (term : String) : String :=
  String.ofList (term.toList.flatMap fun c =>
    if c = '\\' ∨ c = '%' ∨ c = '_' then ['\\', c] else [c])

/-- The truth value of a term. -/
def readBool (term : String) : Option Bool :=
  match Text.asciiLower (Text.trim term) with
  | "true" | "1" => some true
  | "false" | "0" => some false
  | _ => none

/-- The value that a term denotes in a category other than text. -/
def valueOf? (category : Category) (term : String) : Option Value :=
  match category with
  | .integer => (IntegerRange.signed64.read? (Text.trim term)).map .int
  | .float => (Double.read? (Text.trim term)).map .float
  | .boolean => (readBool term).map .bool
  | .date => (Calendar.readDate term).map .date
  | .dateTime => (Calendar.readDateTime term).map .dateTime
  | .text => none
  | .unknown => none

/-- What a term asks of a column of the category, where `valid` knows the valid patterns. -/
def readWith (valid : String → Bool) (category : Category) (term : String) (regex : Bool) :
    Except TermSkip TermTest :=
  if term.isEmpty then .error .emptyTerm
  else
    match category with
    | .text =>
      if regex then if valid term then .ok (.matchesPattern term) else .error .unparsable
      else .ok (.contains ("%" ++ escapeWildcards term ++ "%"))
    | .unknown => .error .unsupportedCategory
    | category =>
      match valueOf? category term with
      | some v => .ok (.equals v)
      | none => .error .unparsable

/-- What a term asks of a column of the category. -/
def read (category : Category) (term : String) (regex : Bool) : Except TermSkip TermTest :=
  readWith Pattern.isValid category term regex

/-- The test on a column. -/
def predicate (d : Dialect) (source : String) (t : TermTest) : Predicate :=
  let column := d.escape source
  match t with
  | .contains pattern => d.contains column pattern
  | .matchesPattern pattern => d.matchesPattern column pattern
  | .equals v => (Predicate.empty.push column |>.push " = " |>.bind v)

end TermTest

/-- The predicate of a term on a column. -/
def Predicate.ofTerm (d : Dialect) (source : String) (category : Category) (term : String)
    (regex : Bool) : Except TermSkip Predicate :=
  (TermTest.read category term regex).map (TermTest.predicate d source)

end GridQuery
