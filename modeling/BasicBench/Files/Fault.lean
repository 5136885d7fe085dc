import BasicBench.Raised
import BasicBench.Text.Space
import BasicBench.Text.Utf8

/-!
What can go wrong with a file. The operating system numbers its refusals; a path with a null
character never reaches it.
-/

set_option autoImplicit false

namespace BasicBench.Files

inductive Refusal where
  | notFound | denied | alreadyThere | notFolder | isFolder | nameTooLong | nullCharacter
  | other (number : Nat) (text : String)
  deriving DecidableEq, Repr

namespace Refusal

/-- The number and the text of a refusal by the operating system. -/
def system? : Refusal → Option (Nat × String)
  | notFound => some (2, "No such file or directory")
  | denied => some (13, "Permission denied")
  | alreadyThere => some (17, "File exists")
  | notFolder => some (20, "Not a directory")
  | isFolder => some (21, "Is a directory")
  | nameTooLong => some (36, "File name too long")
  | nullCharacter => none
  | other number text => some (number, text)

/-- The refusal with a number of the operating system. -/
def ofNumber (number : Nat) (text : String) : Refusal :=
  match number with
  | 2 => notFound
  | 13 => denied
  | 17 => alreadyThere
  | 20 => notFolder
  | 21 => isFolder
  | 36 => nameTooLong
  | _ => other number text

def kindName : Refusal → String
  | notFound => "FileNotFoundError"
  | denied => "PermissionError"
  | alreadyThere => "FileExistsError"
  | notFolder => "NotADirectoryError"
  | isFolder => "IsADirectoryError"
  | nameTooLong | other _ _ => "OSError"
  | nullCharacter => "ValueError"

end Refusal

structure FileFault where
  refusal : Refusal
  path : Text
  deriving DecidableEq, Repr

def FileFault.message (fault : FileFault) : String :=
  match fault.refusal.system? with
  | some (number, text) =>
      let path := String.ofList (Json.Display.quoted (String.ofList fault.path))
      s!"[Errno {number}] {text}: {path}"
  | none => "embedded null byte"

/-- A path that never reaches the operating system is a bad text. -/
def FileFault.raised (fault : FileFault) : RuntimeFault where
  kind := if fault.refusal.system?.isSome then .system else .value
  message := fault.message

/-- Why a text could not be read from a file. -/
inductive ReadFault where
  | refused (fault : FileFault)
  | undecodable (error : Text.Utf8Error)
  deriving DecidableEq, Repr

def ReadFault.message : ReadFault → String
  | refused fault => fault.message
  | undecodable error => error.message

def ReadFault.raised : ReadFault → RuntimeFault
  | refused fault => fault.raised
  | undecodable error => { kind := .decoding, message := error.message }

end BasicBench.Files
