import GridQuery.Backend.Basic
import GridQuery.Program.Transcript
import GridQuery.Settings
import GridQuery.View.File

/-!
# The surroundings of a program

What the programs find where they run: their settings, the files they read, and the database.
-/

namespace GridQuery.Program

/-- A backend with the world that it works on. -/
structure Reached (σ : Type) where
  backend : Backend σ
  world : σ

structure Surroundings (σ : Type) where
  env : Environment
  /-- The text of a file, or why it cannot be read. -/
  readFile : String → Except String String
  connect : DatabaseSettings → Except DatabaseError (Reached σ)

namespace Surroundings

/-- Both groups of settings. -/
def settings {σ : Type} (s : Surroundings σ) :
    Except Complaint (DatabaseSettings × ServiceSettings) :=
  match DatabaseSettings.ofEnvironment s.env with
  | .error f => .error ⟨f.message, []⟩
  | .ok d =>
    match ServiceSettings.ofEnvironment s.env with
    | .error f => .error ⟨f.message, []⟩
    | .ok v => .ok (d, v)

/-- The registry in a file. -/
def views {σ : Type} (s : Surroundings σ) (path : String) : Except Complaint Registry :=
  (Registry.load s.readFile path).mapError fun f => ⟨f.message, f.cause?.toList⟩

end Surroundings

/-- The complaint about a database. -/
def Complaint.ofDatabase (e : DatabaseError) : Complaint := ⟨e.message, e.cause?.toList⟩

end GridQuery.Program
