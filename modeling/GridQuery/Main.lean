import GridQuery.Program.Preflight
import GridQuery.Program.Server

/-!
# The command line

The first argument names the program: `preflight`, with the tables to check behind it, or
`serve`. No database is within reach from here, so both end where they try to connect.
-/

namespace GridQuery.Program

/-- The settings that the programs read. -/
def settingNames : List String :=
  ["DB_DIALECT", "DB_HOST", "DB_PORT", "DB_USER", "DB_PASSWORD", "DB_NAME", "DATABASE_URL",
    "DB_MAX_CONNECTIONS", "QUERY_TIMEOUT_MS", "MAX_PAGE_SIZE", "SCHEMA_CACHE", "BIND_ADDR",
    "VIEWS_FILE"]

/-- The settings and the views file of the process. -/
def surroundings : IO (Surroundings Unit) := do
  let pairs ← settingNames.filterMapM fun name => do
    return (← IO.getEnv name).map fun v => (name, v)
  let env : Environment := fun name => pairs.lookup name
  let path := (env "VIEWS_FILE").getD "views.json"
  let text : Except String String ← try
      let text ← IO.FS.readFile path
      pure (.ok text)
    catch _ => pure (.error "No such file or directory (os error 2)")
  return ⟨env, fun _ => text, fun d => .error (absence d)⟩

/-- Shows a transcript and returns its exit code. -/
def display (t : Transcript) : IO UInt32 := do
  IO.print t.out
  IO.eprint t.err
  return t.exit.toUInt32

end GridQuery.Program

open GridQuery.Program in
def main (args : List String) : IO UInt32 := do
  let s ← surroundings
  match args with
  | "preflight" :: tables => display (Preflight.run s tables).1
  | _ =>
    match Server.start s with
    | .error t => display t
    | .ok l => display (Server.interrupted l)
