import GridQuery.Sql.Category
import GridQuery.Sql.Predicate
import GridQuery.Text.Blank
import GridQuery.Text.Case

/-!
# Dialects

What the two families of databases write differently: quoted names, placeholders, a column
read as text, text searches, and the query for a table's columns. Each family has a table of
type names; `Dialect.category` finds the category of a raw type in it, whatever its case,
arguments and sign modifiers.
-/

namespace GridQuery

/-- A family of databases. -/
inductive Dialect where
  | mysql
  | postgres
deriving DecidableEq, Repr

namespace Dialect

open Text

def name : Dialect → String
  | .mysql => "mysql"
  | .postgres => "postgres"

def defaultPort : Dialect → Nat
  | .mysql => 3306
  | .postgres => 5432

/-- The dialect with a configured name, if the name is known. -/
def ofName? (s : String) : Option Dialect :=
  match asciiLower (trim s) with
  | "postgres" | "postgresql" | "pg" => some .postgres
  | "mysql" | "mariadb" => some .mysql
  | _ => none

/-! ## Names and placeholders -/

/-- The character around a quoted name. -/
def quote : Dialect → Char
  | .mysql => '\x60'
  | .postgres => '"'

/-- The characters of a quoted name: quotes inside it are doubled. -/
def escapeChars (q : Char) (cs : List Char) : List Char :=
  q :: cs.flatMap (fun c => if c = q then [q, q] else [c]) ++ [q]

/-- A name in quotes. -/
def escape (d : Dialect) (name : String) : String :=
  String.ofList (escapeChars d.quote name.toList)

/-- The placeholder of the `n`-th value, from 1. -/
def placeholder (d : Dialect) (n : Nat) : String :=
  match d with
  | .mysql => "?"
  | .postgres => "$" ++ toString n

/-! ## Expressions -/

/-- A quoted column, read as text. -/
def asText (d : Dialect) (column : String) : String :=
  match d with
  | .mysql => "CAST(" ++ column ++ " AS CHAR)"
  | .postgres => column ++ "::text"

/-- A quoted column matches a pattern with wildcards, ignoring case. -/
def contains (d : Dialect) (column pattern : String) : Predicate :=
  match d with
  | .mysql =>
    (Predicate.empty.push "LOWER(" |>.push column |>.push ") LIKE LOWER("
      |>.bind (.text pattern) |>.push ")")
  | .postgres => (Predicate.empty.push column |>.push " ILIKE " |>.bind (.text pattern))

/-- A quoted column matches a regular expression. -/
def matchesPattern (d : Dialect) (column pattern : String) : Predicate :=
  match d with
  | .mysql => (Predicate.empty.push column |>.push " REGEXP " |>.bind (.text pattern))
  | .postgres => (Predicate.empty.push column |>.push " ~* " |>.bind (.text pattern))

/-- The catalog query for the names and types of the columns of a table, its one value. -/
def describeSql : Dialect → String
  | .mysql =>
    "SELECT CAST(COLUMN_NAME AS CHAR) AS column_name, CAST(COLUMN_TYPE AS CHAR) AS column_type\n" ++
    "         FROM INFORMATION_SCHEMA.COLUMNS\n" ++
    "         WHERE TABLE_SCHEMA = DATABASE() AND TABLE_NAME = ?\n" ++
    "         ORDER BY ORDINAL_POSITION"
  | .postgres =>
    "SELECT column_name::text AS column_name, udt_name::text AS column_type\n" ++
    "         FROM information_schema.columns\n" ++
    "         WHERE table_schema = current_schema() AND table_name = $1\n" ++
    "         ORDER BY ordinal_position"

/-! ## Types -/

/-- The type names of a family with their categories. -/
def typeTable : Dialect → List (String × Category)
  | .mysql =>
    [("char", .text), ("varchar", .text), ("text", .text), ("tinytext", .text),
      ("mediumtext", .text), ("longtext", .text), ("enum", .text), ("set", .text),
      ("tinyint", .integer), ("smallint", .integer), ("mediumint", .integer), ("int", .integer),
      ("integer", .integer), ("bigint", .integer), ("year", .integer),
      ("float", .float), ("double", .float), ("double precision", .float), ("real", .float),
      ("decimal", .float), ("numeric", .float),
      ("bool", .boolean), ("boolean", .boolean),
      ("date", .date), ("datetime", .dateTime), ("timestamp", .dateTime)]
  | .postgres =>
    [("text", .text), ("varchar", .text), ("character varying", .text), ("bpchar", .text),
      ("char", .text), ("character", .text), ("name", .text), ("citext", .text),
      ("string", .text),
      ("int2", .integer), ("int4", .integer), ("int8", .integer), ("int", .integer),
      ("smallint", .integer), ("integer", .integer), ("bigint", .integer),
      ("smallserial", .integer), ("serial", .integer), ("bigserial", .integer),
      ("float4", .float), ("float8", .float), ("real", .float), ("double precision", .float),
      ("numeric", .float), ("decimal", .float),
      ("bool", .boolean), ("boolean", .boolean),
      ("date", .date), ("timestamp", .dateTime), ("timestamptz", .dateTime),
      ("timestamp without time zone", .dateTime), ("timestamp with time zone", .dateTime)]

/-- What follows the last closing parenthesis; nothing if there is none. -/
def afterArguments (cs : List Char) : List Char :=
  if cs.contains ')' then (cs.reverse.takeWhile (· ≠ ')')).reverse else []

/-- A type name in lower case and without its arguments, which reach from the first opening
parenthesis to the last closing one. -/
def bareType (cs : List Char) : List Char :=
  let cs := (trimChars cs).map Char.toLower
  match cs.dropWhile (· ≠ '(') with
  | [] => cs
  | arguments => trimChars (dropBlanksEnd (cs.takeWhile (· ≠ '(')) ++ afterArguments arguments)

/-- Removes a word wherever it stands, from left to right; `skip` characters belong to the
occurrence under way. -/
def removeWord (word : List Char) (skip : Nat) : List Char → List Char
  | [] => []
  | c :: cs =>
    match skip with
    | n + 1 => removeWord word n cs
    | 0 =>
      if word.isPrefixOf (c :: cs) then removeWord word (word.length - 1) cs
      else c :: removeWord word 0 cs

/-- The words about the sign of a number. -/
def signModifiers : List (List Char) :=
  [" unsigned".toList, " signed".toList, " zerofill".toList]

/-- A raw type in lower case and without sign modifiers. -/
def withoutSign (cs : List Char) : List Char :=
  signModifiers.foldl (fun cs w => removeWord w 0 cs) ((trimChars cs).map Char.toLower)

/-- The category of a type name in the family's table. -/
def lookupType (d : Dialect) (cs : List Char) : Category :=
  (d.typeTable.lookup (String.ofList cs)).getD .unknown

/-- The category of a raw type. An integer of one digit stands for a truth value. -/
def category (d : Dialect) (rawType : String) : Category :=
  match d with
  | .mysql =>
    let cs := withoutSign rawType.toList
    if cs = "tinyint(1)".toList then .boolean else lookupType .mysql (bareType cs)
  | .postgres => lookupType .postgres (bareType rawType.toList)

end Dialect

end GridQuery
