import BasicBench.Instrument.Feature
import BasicBench.Text.Line
import BasicBench.Text.Pattern

/-!
Habits that are harmless when a person runs a program and fail when nobody watches: prompts
that wait for a key, output that vanishes, handles that stay open. Each rule looks at the whole
text and reports at most one issue, of a kind of its own.
-/

set_option autoImplicit false

namespace BasicBench.Instrument

open Text Pattern

inductive IssueKind where
  | consoleVisibility | flowControl | fileHandle | graphicsContext | processManagement
  deriving DecidableEq, Repr

namespace IssueKind

def all : List IssueKind :=
  [.consoleVisibility, .flowControl, .fileHandle, .graphicsContext, .processManagement]

def label : IssueKind → String
  | consoleVisibility => "console_visibility"
  | flowControl => "flow_control"
  | fileHandle => "file_handle"
  | graphicsContext => "graphics_context"
  | processManagement => "process_management"

def ofLabel? (label : String) : Option IssueKind := all.find? (·.label == label)

end IssueKind

inductive Urgency where
  | low | medium | high
  deriving DecidableEq, Repr

def Urgency.label : Urgency → String
  | .low => "low"
  | .medium => "medium"
  | .high => "high"

structure Issue where
  id : String
  kind : IssueKind
  urgency : Urgency
  description : String
  symptoms : List String
  line : Option Nat
  deriving DecidableEq, Repr

/-- The only issue of its kind: the number in its name is always one. -/
def issue (kind : IssueKind) (urgency : Urgency) (description : String)
    (symptoms : List String) (line : Option Nat) : Issue :=
  ⟨kind.label ++ "_1", kind, urgency, description, symptoms, line⟩

def consoleWord : Pattern := anyCase "$CONSOLE"

def graphicsKeywords : List String :=
  ["SCREEN", "CIRCLE", "LINE", "PSET", "POINT", "PAINT", "PUT", "GET", "_NEWIMAGE", "_PUTIMAGE",
    "_LOADIMAGE"]

def graphicsWord : Pattern :=
  notAfter (fun c => isWordChar c || c == '$') ++
    capture 1 (anyOf (graphicsKeywords.map anyCase)) ++ wordEdge

/-- A prompt and the wait for a key on one of the next lines. -/
def promptAndWait : Pattern :=
  anyCase "PRINT" ++ blanks1 ++ one (· == '"') ++ anyCase "Press any key" ++ many (· != '"') ++
    one (· == '"') ++ blanks ++ many1 (among "\r\n") ++ blanks ++ anyCase "SLEEP" ++ wordEdge

def systemStatement : Pattern := lineStart ++ blanks ++ anyCase "SYSTEM" ++ wordEdge

/-- What a program draws on, told by the words it uses. -/
def Mode.detect (program : Text) : Mode :=
  let draws := graphicsWord.occursIn program
  let prints := consoleWord.occursIn program
  if draws && prints then .mixed else if draws then .graphics else .console

def foundLine (program : Text) (found : Found) : Option Nat :=
  some (lineNumberAt program found.offset)

def consoleIssue? (mode : Mode) (program : Text) : Option Issue :=
  if consoleWord.occursIn program || mode = .graphics then none
  else some (issue .consoleVisibility .high
    "Program may exit immediately without showing console output"
    ["Program compiles but no output visible", "Process exits immediately",
      "Console window not visible"] none)

def waitIssue? (program : Text) : Option Issue :=
  (promptAndWait.find? program).map fun found =>
    issue .flowControl .high
      "Program contains blocking \"Press any key\" prompts that prevent automation"
      ["Program hangs waiting for user input", "Automated testing fails"]
      (foundLine program found)

/-- The more handles a program takes, the sooner it runs out of them. -/
def handleUrgency (count : Nat) : Urgency :=
  if count ≥ 5 then .high else if count ≥ 2 then .medium else .low

def fileIssue? (program : Text) : Option Issue :=
  match (keyword "FREEFILE").findAll program with
  | [] => none
  | first :: others =>
      let count := others.length + 1
      some (issue .fileHandle (handleUrgency count)
        s!"Code uses {count} file handles without tracking or cleanup"
        ["Cannot CREATE because file is already in use", "Compilation errors after failed runs",
          "File locking issues"] (foundLine program first))

def imageIssue? (program : Text) : Option Issue :=
  match (keyword "_NEWIMAGE").findAll program with
  | [] => none
  | first :: others =>
      if (keyword "_FREEIMAGE").occursIn program then none
      else
        let count := others.length + 1
        some (issue .graphicsContext .medium
          s!"Code creates {count} images without proper cleanup"
          ["Memory leaks", "Graphics operations fail", "Image handle errors"]
          (foundLine program first))

/-- A program that ends itself with no delay anywhere before. -/
def exitIssue? (program : Text) : Option Issue :=
  (systemStatement.find? program).bind fun found =>
    if (keyword "_DELAY").occursIn (program.take found.offset) then none
    else some (issue .processManagement .low
      "Program exits immediately without allowing observation"
      ["Process terminates too quickly to see output", "No time to analyze graphics"]
      (foundLine program found))

/-- The issues of a program that runs in a mode. -/
def issues (mode : Mode) (program : Text) : List Issue :=
  (consoleIssue? mode program).toList ++ (waitIssue? program).toList ++
    (fileIssue? program).toList ++ (imageIssue? program).toList ++ (exitIssue? program).toList

end BasicBench.Instrument
