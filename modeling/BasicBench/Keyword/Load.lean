import BasicBench.Files.Access
import BasicBench.Keyword.Builtin
import BasicBench.Keyword.Record

/-!
Catalogues in files. A file that is there and holds no catalogue is another failure than a file
that is missing. What goes wrong with a file that is there raises a fault of some kind, and
loading answers for the kinds that it knows of with the one failure for such files. A catalogue
that is shared is loaded when it is asked for the first time.
-/

set_option autoImplicit false

namespace BasicBench.Keyword.Catalog

open Files
open Json (Document)

/-- The catalogue in a JSON text. -/
def ofText (make : EntryMaker) (text : Text) : Except RuntimeFault Catalog := do
  ofDocument make (← Document.parse text)

/-- The kinds of faults that loading answers for. -/
def answeredKinds : List FaultKind := [.system, .value, .part, .type, .validation]

/-- What is raised in the place of a fault with a file that is there. -/
def answer (path : Text) (fault : RuntimeFault) : Raised :=
  if answeredKinds.any fault.kind.isA then
    .failure (.catalogUnreadable (String.ofList path) fault.message)
  else .fault fault

variable {m : Type → Type} [Monad m]

/-- Reads the catalogue in a file that is there. -/
def readFile (make : EntryMaker) (files : Access m) (path : Text) :
    m (Except RuntimeFault Catalog) := do
  match ← files.readText path with
  | .error fault => return .error fault.raised
  | .ok text => return ofText make text

/-- Loads a catalogue from a file. -/
def load (make : EntryMaker) (files : Access m) (path : Text) : m (Except Raised Catalog) := do
  if ← files.holds path then
    match ← readFile make files path with
    | .ok catalog => return .ok catalog
    | .error fault => return .error (answer path fault)
  else return .error (.failure (.catalogNotFound (String.ofList path)))

/-- The catalogue in a file, or the built-in one. A catalogue that cannot be loaded is taken as
empty: nothing is known about any keyword. -/
def loadOrEmpty (make : EntryMaker) (files : Access m) :
    Option Text → m (Except RuntimeFault Catalog)
  | none => return .ok builtin
  | some path => do
      match ← load make files path with
      | .ok catalog => return .ok catalog
      | .error (.failure _) => return .ok .empty
      | .error (.fault fault) => return .error fault

/-- The catalogues that were given so far, the last one first. -/
abbrev Shelf := List (Option Text × Catalog)

/-- The catalogue that was given for a path before, whatever has become of the file, or else the
one that is loaded now. -/
def shared (make : EntryMaker) (files : Access m) (path : Option Text) :
    StateT Shelf m (Except RuntimeFault Catalog) := do
  match (← get).lookup path with
  | some catalog => return .ok catalog
  | none =>
      match ← (loadOrEmpty make files path : m (Except RuntimeFault Catalog)) with
      | .error fault => return .error fault
      | .ok catalog =>
          modify ((path, catalog) :: ·)
          return .ok catalog

end BasicBench.Keyword.Catalog
