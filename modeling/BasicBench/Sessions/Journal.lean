import BasicBench.Files.Access
import BasicBench.Sessions.Record

/-!
A journal: a folder with one record for each enhancement. Keeping it is done as well as it can
be: a record that the file system refuses is left out, and the enhancement counts all the same.
-/

set_option autoImplicit false

namespace BasicBench.Sessions

open Files

structure Journal where
  folder : Text
  isKept : Bool := true

namespace Journal

/-- The file of a session's record. -/
def pathOf (journal : Journal) (id : String) : Text :=
  Files.join journal.folder (id.toList ++ ".json".toList)

variable {m : Type → Type} [Monad m]

/-- Writes a record. Only a path that never reaches the file system is a fault. -/
def write (journal : Journal) (files : Access m) (enhancement : Enhancement) :
    m (Except FileFault Unit) := do
  if journal.isKept then
    match ← files.makeFolders journal.folder with
    | .error fault => return tolerated fault
    | .ok _ =>
        match ← files.write (journal.pathOf enhancement.session.id)
            enhancement.record.pretty.toList with
        | .error fault => return tolerated fault
        | .ok done => return .ok done
  else return .ok ()
where
  tolerated (fault : FileFault) : Except FileFault Unit :=
    if fault.refusal.system?.isSome then .ok () else .error fault

end Journal
end BasicBench.Sessions
