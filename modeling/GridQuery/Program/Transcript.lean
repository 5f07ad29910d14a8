/-!
# What a program leaves behind

The text on its two output streams and its exit code. A program that fails shows its failure
with everything that led to it.
-/

namespace GridQuery.Program

structure Transcript where
  out : String
  err : String
  exit : Nat
deriving DecidableEq, Repr

/-- Lines, each with its end. -/
def lines (ls : List String) : String := String.join (ls.map (· ++ "\n"))

/-- A failure and its causes, the nearest first. -/
structure Complaint where
  message : String
  causes : List String
deriving DecidableEq, Repr

namespace Complaint

/-- A text whose lines but the first are indented. -/
def indented (gap : String) (s : String) : String := String.ofList <|
  s.toList.flatMap fun c => if c = '\n' then '\n' :: gap.toList else [c]

def causeLine (several : Bool) (n : Nat) (cause : String) : String :=
  if several then
    let number := toString n
    String.ofList (List.replicate (5 - number.length) ' ') ++ number ++ ": " ++
      indented "       " cause
  else "    " ++ indented "    " cause

/-- The complaint as a failing program shows it. -/
def text (c : Complaint) : String :=
  "Error: " ++ c.message ++ "\n" ++
    if c.causes.isEmpty then ""
    else
      "\nCaused by:\n" ++
        lines (c.causes.zipIdx.map fun (cause, n) => causeLine (1 < c.causes.length) n cause)

end Complaint

/-- A program that fails after what it has shown. -/
def Transcript.failed (out err : String) (c : Complaint) : Transcript := ⟨out, err ++ c.text, 1⟩

end GridQuery.Program
