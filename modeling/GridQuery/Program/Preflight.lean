import GridQuery.Program.Surroundings

/-!
# Preflight

Checks the settings, the database and the tables before anything is served: prints the
category of every column of the tables named as arguments, or else of the tables of all views.
-/

namespace GridQuery.Program.Preflight

def usage : String := lines
  ["Usage: cargo run --bin preflight -- [TABLE ...]",
    "",
    "Connects with the DB_* / DATABASE_URL settings, pings the database and",
    "prints the type category of every column of each TABLE. Without",
    "arguments, the tables of all views in VIEWS_FILE are checked.",
    ""]

/-- A text filled up with blanks to a width in characters. -/
def cell (width : Nat) (s : String) : String :=
  s ++ String.ofList (List.replicate (width - s.length) ' ')

def columnLine (c : CatalogColumn) : String :=
  "    " ++ cell 32 c.source ++ " " ++ cell 24 c.rawType ++ " " ++ c.category.label

/-- How the database is reached, without the password. -/
def settingsLines (d : DatabaseSettings) : List String :=
  ["> Preflight:", "  DB_DIALECT=" ++ d.dialect.name,
    if d.url.isSome then "  DATABASE_URL=<set>"
    else "  " ++ d.user ++ "@" ++ d.host ++ ":" ++ toString d.port ++ "/" ++ d.database]

/-- The distinct tables of the views, in increasing order. -/
def tablesOf (r : Registry) : List String :=
  ((r.views.map (·.table)).mergeSort fun a b => decide (a ≤ b)).eraseDups

/-- What is shown of one table: its columns, or why they are not known. -/
def tableReport (table : String) : Except SchemaFailure Schema → String × String
  | .ok schema => (lines (("  Table " ++ table ++ ":") :: schema.map columnLine), "")
  | .error f => ("", lines ["  Error: " ++ f.message])

variable {σ : Type}

/-- Runs an operation without a deadline. -/
def step {α : Type} (a : Action σ α) (w : σ) : Option α × σ := a.runFor none w

/-- Describes every table, in their order. -/
def describeAll (b : Backend σ) : List String → σ → List (String × Except SchemaFailure Schema) × σ
  | [], w => ([], w)
  | table :: rest, w =>
    match step (b.describe table) w with
    | (some r, w) =>
      let (reports, w) := describeAll b rest w
      ((table, r) :: reports, w)
    | (none, w) => describeAll b rest w

/-- The tables to check, and the line that says where they come from. -/
def tables (s : Surroundings σ) (v : ServiceSettings) (args : List String) :
    Except Complaint (List String × List String) :=
  if args.isEmpty then do
    let r ← s.views v.viewsFile
    return (tablesOf r,
      ["  VIEWS_FILE=" ++ v.viewsFile ++ " (" ++ toString r.size ++ " views)"])
  else return (args, [])

/-- Pings the database and describes the tables. -/
def check (out : String) (tables : List String) (r : Reached σ) : Transcript × σ :=
  match step r.backend.ping r.world with
  | (some (.error e), w) => (.failed out "" ⟨"Database ping failed: " ++ e.message, []⟩, w)
  | (_, w) =>
    let (results, w) := describeAll r.backend tables w
    let reports := results.map fun t => tableReport t.1 t.2
    let failures := (results.filter fun t => t.2.toOption.isNone).length
    let out := out ++ lines ["  Database is reachable."] ++ String.join (reports.map (·.1))
    let err := String.join (reports.map (·.2))
    if failures = 0 then (⟨out ++ lines ["> Preflight OK."], err, 0⟩, w)
    else
      (.failed out err ⟨toString failures ++ " table(s) could not be described", []⟩, w)

/-- Runs the program; the world is there if the database was reached. -/
def run (s : Surroundings σ) (args : List String) : Transcript × Option σ :=
  if args.contains "-h" || args.contains "--help" then (⟨"", usage, 2⟩, none)
  else
    match s.settings with
    | .error c => (.failed "" "" c, none)
    | .ok (d, v) =>
      let out := lines (settingsLines d)
      match tables s v args with
      | .error c => (.failed out "" c, none)
      | .ok (tables, note) =>
        let out := out ++ lines note
        match s.connect d with
        | .error e => (.failed out "" (.ofDatabase e), none)
        | .ok r =>
          let (t, w) := check out tables r
          (t, some w)

end GridQuery.Program.Preflight
