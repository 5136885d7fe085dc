import BasicBench.CommandLine.Validate
import BasicBench.Sessions.Journal

/-!
The command that instruments a program. The new program goes to a file beside the old one or to
a file of the caller's choice; a program that came from standard input and was given no file
goes to the output alone.
-/

set_option autoImplicit false

namespace BasicBench.CommandLine

open Files Instrument Sessions

variable {m : Type → Type} [Monad m]

/-- The name of an instrumented program beside the program itself. -/
def debugName (path : Text) : Text :=
  let (stem, extension) := splitExtension path
  stem ++ "_debug".toList ++ if extension.isEmpty then ".bas".toList else extension

/-- Where the new program is written; nothing when it goes to the output. -/
def outputPath? (command : EnhanceCommand) : Option Text :=
  match givenPath command.output with
  | some path => some path
  | none => (givenPath command.path).map debugName

def issueText (issue : Issue) : String :=
  coloured .yellow
    ("[" ++ issue.urgency.label ++ "] " ++ issue.kind.label ++ ": " ++ issue.description) ++ "\n"

def featuresText (features : List Feature) : String :=
  if features.isEmpty then "none" else ", ".intercalate (features.map (·.title))

def enhancementText (enhancement : Enhancement) (name fullName : String) : String :=
  let session := enhancement.session
  let before := enhancement.summary.linesBefore
  let after := enhancement.summary.linesAfter
  "--- Enhancing " ++ name ++ " (" ++ session.mode.label ++ " mode) ---\n" ++
    String.join (session.issues.map issueText) ++
    String.join (enhancement.instrumented.changes.map fun change =>
      "  + " ++ change.message ++ "\n") ++
    "\nFeatures: " ++ featuresText enhancement.instrumented.features ++
    s!"\nLines: {before} -> {after}\n\n" ++
    coloured .green ("--- Enhancement Successful (session " ++ session.id ++ ") ---") ++
    "\nEnhanced program written to " ++ fullName ++ "\n"

/-- Writes a program to a file, in a folder that is made when it is not there. -/
def writeProgram (files : Access m) (fullName program : Text) :
    m (Except FileFault Unit) := do
  match ← files.makeFolders (folderOf fullName) with
  | .error fault => return .error fault
  | .ok _ => files.write fullName program

/-- Puts the new program where it belongs. -/
def deliver (files : Access m) (command : EnhanceCommand) (enhancement : Enhancement) :
    m Outcome := do
  match outputPath? command with
  | none => return .success (String.ofList enhancement.instrumented.program)
  | some path =>
      let fullName := absolute files.home path
      match ← writeProgram files fullName enhancement.instrumented.program with
      | .error fault => return .complaining (.file fault)
      | .ok _ =>
          return .success
            (enhancementText enhancement (displayName command.path) (String.ofList fullName))

def enhanceProgram (files : Access m) (command : EnhanceCommand) (input : Text)
    (circumstances : Circumstances) : m Outcome := do
  match ← readProgram files command.path input with
  | .error complaint => return .complaining complaint
  | .ok (source, fullName) =>
      let request : Request := {
        source, options := command.options.toJson
        projectPath := fullName.map fun fullName => String.ofList (folderOf fullName) }
      match (Store.empty.enhance request circumstances).2 with
      | .error fault => return .complaining (.ofEnhanceFault fault)
      | .ok enhancement =>
          let journal : Journal := ⟨command.journalFolder, command.keepsJournal⟩
          match ← journal.write files enhancement with
          | .error fault => return .complaining (.file fault)
          | .ok _ => deliver files command enhancement

/-- A program on the output is not mixed with the time that the work took. -/
def enhance (files : Access m) (command : EnhanceCommand) (input : Text)
    (circumstances : Circumstances) : m Outcome := do
  let outcome ← enhanceProgram files command input circumstances
  return { outcome with isTimed := (outputPath? command).isSome }

end BasicBench.CommandLine
