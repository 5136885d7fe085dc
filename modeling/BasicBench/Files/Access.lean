import BasicBench.Files.Fault
import BasicBench.Files.Path

/-!
Access to files. What the commands need of a file system is a handful of operations; the rest is
built from these. A path is a full name or is seen from the working folder.
-/

set_option autoImplicit false

namespace BasicBench.Files

structure Access (m : Type → Type) where
  /-- The full name of the working folder. -/
  home : Text
  holds : Text → m Bool
  holdsFolder : Text → m Bool
  read : Text → m (Except FileFault (List UInt8))
  write : Text → Text → m (Except FileFault Unit)
  makeFolder : Text → m (Except FileFault Unit)

namespace Access

variable {m : Type → Type} [Monad m]

/-- Reads a text file; every line end comes out as a line feed. -/
def readText (files : Access m) (path : Text) : m (Except ReadFault Text) := do
  match ← files.read path with
  | .error fault => return .error (.refused fault)
  | .ok bytes =>
      match Text.decodeUtf8 bytes with
      | .error error => return .error (.undecodable error)
      | .ok text => return .ok (Text.unifyLineEnds text)

/-- Makes one folder; that it is there already is no fault. -/
def ensureFolder (files : Access m) (path : Text) : m (Except FileFault Unit) := do
  match ← files.makeFolder path with
  | .ok done => return .ok done
  | .error fault => if ← files.holdsFolder path then return .ok () else return .error fault

/-- A path without the name of its own folder entry: one slash at the end names nothing. -/
def entryPath (path : Text) : Text := if nameOf path = [] then folderOf path else path

theorem length_entryPath_le (path : Text) : (entryPath path).length ≤ path.length := by
  rw [entryPath]
  split
  · have whole := congrArg List.length (upToName_append_nameOf path)
    have shorter := length_withoutEndSlashes_le (upToName path)
    rw [List.length_append] at whole
    rw [folderOf]
    omega
  · exact Nat.le_refl _

/-- Makes a folder and the folders above it that are not there. The first that cannot be made
ends the work, unless something with its name is in the way. -/
def makeFolders (files : Access m) (path : Text) : m (Except FileFault Unit) := do
  let entry := entryPath path
  let parent := folderOf entry
  if _named : nameOf entry ≠ [] ∧ parent ≠ [] then
    if ← files.holds parent then files.ensureFolder path
    else
      match ← makeFolders files parent with
      | .ok _ | .error ⟨.alreadyThere, _⟩ =>
          if nameOf entry = ['.'] then return .ok () else files.ensureFolder path
      | .error fault => return .error fault
  else files.ensureFolder path
termination_by path.length
decreasing_by
  have shorter := length_folderOf_lt (entryPath path) _named.1
  have bound := length_entryPath_le path
  omega

end Access
end BasicBench.Files
