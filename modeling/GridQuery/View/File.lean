import GridQuery.View.Document

/-!
# Views files

A registry is loaded from a file, which may be missing, may not hold a document of views, or
may hold a view that cannot be used.
-/

namespace GridQuery

/-- Why no registry can be loaded. -/
inductive ViewsFailure where
  | unreadable (path reason : String)
  | form (path : String) (f : DecodeFault)
  | view (name : String) (f : ViewFault)

namespace ViewsFailure

def message : ViewsFailure → String
  | .unreadable path reason => "failed to read views file " ++ path ++ ": " ++ reason
  | .form path f => "invalid views file " ++ path ++ ": " ++ f.message
  | .view name f => "invalid view '" ++ name ++ "': " ++ f.reason

/-- What lies behind the failure; a view that cannot be used says it all itself. -/
def cause? : ViewsFailure → Option String
  | .unreadable _ reason => some reason
  | .form _ f => some f.message
  | .view .. => none

/-- The failure of a document that came from a path. -/
def ofFault (path : String) : RegistryFault → ViewsFailure
  | .form f => .form path f
  | .view name f => .view name f

end ViewsFailure

/-- The registry in the file at a path, where `read` gives the text of a file or says why it
cannot be read. -/
def Registry.load (read : String → Except String String) (path : String) :
    Except ViewsFailure Registry :=
  match read path with
  | .error reason => .error (.unreadable path reason)
  | .ok text => (Registry.ofText text).mapError (.ofFault path)

end GridQuery
