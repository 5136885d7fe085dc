import BasicBench.Instrument.Options
import BasicBench.Instrument.Scaffold

/-!
The six passes of the instrumentation. Each works on the lines of a program and reports what it
changed. A pass adds its block only where it is missing, and the editing of statements passes
over the lines of blocks, so a later run leaves the added code as it is.
-/

set_option autoImplicit false

namespace BasicBench.Instrument

open Text Pattern

/-- What a pass did. -/
inductive Change where
  | normalizedConsole | addedConsole | injectedConsole | replacedWaits | replacedEnds
  | wrappedMain | addedFlowControl
  | addedResources | replacedFreefile | addedCleanup
  | addedGraphics | replacedNewimage | replacedPset
  | addedLogging | addedFileLogging
  | addedScreenshots | addedAutomaticScreenshots
  deriving DecidableEq, Repr

def Change.message : Change → String
  | normalizedConsole => "Normalized $CONSOLE:OFF to $CONSOLE"
  | addedConsole => "Added $CONSOLE directive for console visibility"
  | injectedConsole => "Injected console management system"
  | replacedWaits => "Replaced blocking SLEEP statements with conditional pauses"
  | replacedEnds => "Replaced END statements with explicit debugging exit"
  | wrappedMain => "Wrapped main execution in automated test framework"
  | addedFlowControl => "Added timeout and flow control management"
  | addedResources => "Added resource management system"
  | replacedFreefile => "Replaced FREEFILE with tracked resource allocation"
  | addedCleanup => "Added resource cleanup before program exit"
  | addedGraphics => "Added graphics context management system"
  | replacedNewimage => "Replaced _NEWIMAGE with tracked image creation"
  | replacedPset => "Replaced PSET with bounds-checked version"
  | addedLogging => "Added comprehensive logging system"
  | addedFileLogging => "Added file operation logging"
  | addedScreenshots => "Added automated screenshot system"
  | addedAutomaticScreenshots => "Added automatic screenshots after graphics operations"

/-- Lines on their way through a pass, with what has been changed so far. -/
structure Draft where
  lines : List Text
  changes : List Change := []

namespace Draft

/-- Takes new lines over and records the change if they differ. -/
def update (draft : Draft) (lines : List Text) (change : Change) : Draft :=
  if lines = draft.lines then draft else ⟨lines, draft.changes ++ [change]⟩

/-- Puts the block of a feature in when it is missing. -/
def addBlock (draft : Draft) (feature : Feature) (added : List Text) (change : Change) : Draft :=
  if hasBlock feature draft.lines then draft
  else ⟨insertBlock added draft.lines, draft.changes ++ [change]⟩

end Draft

/-! Console. -/

def consoleDirective : Pattern := textStart ++ blanks ++ anyCase "$CONSOLE" ++ wordEdge

def consoleOff : Pattern :=
  textStart ++ blanks ++ anyCase "$CONSOLE" ++ blanks ++ one (· == ':') ++ blanks ++
    anyCase "OFF" ++ blanks ++ textEnd

def promptStatement : Pattern :=
  textStart ++ capture 1 blanks ++ anyCase "PRINT" ++ blanks1 ++ one (· == '"') ++
    anyCase "Press any key" ++ many (· != '"') ++ one (· == '"') ++ blanks ++ textEnd

def sleepStatement : Pattern := textStart ++ blanks ++ anyCase "SLEEP" ++ wordEdge

def bareEnd : Pattern := textStart ++ capture 1 blanks ++ anyCase "END" ++ blanks ++ textEnd

def pauseCall (indent : Text) : Text :=
  indent ++ "CALL DebugPause(\"Press any key to continue...\")".toList

def exitCall (indent : Text) : Text := indent ++ "CALL DebugExit(\"Program completed\")".toList

/-- The lines from the first one on that is not blank. -/
def skipBlank (lines : List (Text × Bool)) : List (Text × Bool) :=
  lines.dropWhile fun (line, _) => (trim line).isEmpty

/-- The indentation of a prompt that stands outside blocks. -/
def promptIndent? (line : Text) (inside : Bool) : Option Text :=
  if inside then none else (promptStatement.atStart? line).map (·.group 1)

theorem length_skipBlank (lines : List (Text × Bool)) :
    (skipBlank lines).length ≤ lines.length :=
  (List.dropWhile_sublist _).length_le

/-- Puts a pause in place of each prompt that a wait for a key follows, with the blank lines
between the two. -/
def replaceWaits (lines : List (Text × Bool)) : List Text :=
  match lines with
  | [] => []
  | (line, inside) :: rest =>
      match promptIndent? line inside with
      | none => line :: replaceWaits rest
      | some indent =>
          match _wait : skipBlank rest with
          | [] => line :: replaceWaits rest
          | (next, nextInside) :: after =>
              if !nextInside && sleepStatement.startsText next then
                pauseCall indent :: replaceWaits after
              else line :: replaceWaits rest
termination_by lines.length
decreasing_by
  · simp
  · simp
  · have shorter := length_skipBlank rest
    rw [_wait, List.length_cons] at shorter
    simp only [List.length_cons]
    omega
  · simp

def replaceEnd (line : Text) : Text :=
  bareEnd.replaceAll (fun found => exitCall (found.group 1)) line

/-- Makes the output visible and the end of the program explicit. The pass fails only when its
block is missing and the delay in it would be too large. -/
def consoleLines? (options : Options) (lines : List Text) : Option Draft := do
  let normalized : Draft := (Draft.mk lines []).update
    (lines.map fun line => if consoleOff.startsText line then "$CONSOLE".toList else line)
    .normalizedConsole
  let directed : Draft :=
    if normalized.lines.any consoleDirective.startsText then normalized
    else ⟨"$CONSOLE".toList :: normalized.lines, normalized.changes ++ [.addedConsole]⟩
  let supported ←
    if hasBlock .console directed.lines then some directed
    else (consoleBlock? options.timeout options.autoExit).map fun added =>
      directed.addBlock .console added .injectedConsole
  let paused := supported.update (replaceWaits (masked supported.lines)) .replacedWaits
  if options.autoExit then
    some (paused.update (editOutside replaceEnd paused.lines) .replacedEnds)
  else some paused

/-! Flow control. -/

def wrapperHead : Pattern :=
  textStart ++ blanks ++ anyCase "SUB" ++ blanks1 ++ anyCase "AutoTestWrapper" ++ wordEdge

def procedureStart : Pattern :=
  textStart ++ blanks ++ capture 1 (anyCase "SUB" ||| anyCase "FUNCTION") ++ one isSpace

def procedureEnd : Pattern :=
  textStart ++ blanks ++ anyCase "END" ++ blanks1 ++
    capture 1 (anyCase "SUB" ||| anyCase "FUNCTION") ++ wordEdge

/-- Declarations and directives that may stay above the main program. -/
def headerOpenings : List Text :=
  ["$", "'", "CONST ", "DIM SHARED", "DEFINT", "OPTION"].map (·.toList)

def isTopLine (line : Text) : Bool :=
  let shown := upper (trim line)
  shown.isEmpty || headerOpenings.any fun opening => startsWith opening shown

/-- The parts of a program: what stays on top, the main program, and the procedures. -/
structure Sections where
  top : List Text := []
  main : List Text := []
  procedures : List Text := []
  inProcedure : Bool := false

namespace Sections

def add (sections : Sections) (line : Text) (inside : Bool) : Sections :=
  if inside then
    if sections.main.isEmpty then { sections with top := sections.top ++ [line] }
    else { sections with procedures := sections.procedures ++ [line] }
  else if sections.inProcedure then
    { sections with
      procedures := sections.procedures ++ [line]
      inProcedure := !procedureEnd.startsText line }
  else if procedureStart.startsText line then
    { sections with procedures := sections.procedures ++ [line], inProcedure := true }
  else if sections.main.isEmpty && isTopLine line then
    { sections with top := sections.top ++ [line] }
  else { sections with main := sections.main ++ [line] }

def ofLines (lines : List Text) : Sections :=
  (masked lines).foldl (fun sections (line, inside) => sections.add line inside) {}

/-- The main program without the blank lines at its end. -/
def mainBody (sections : Sections) : List Text :=
  (sections.main.reverse.dropWhile fun line => (trim line).isEmpty).reverse

end Sections

def indentLine (line : Text) : Text :=
  if (trim line).isEmpty then [] else "    ".toList ++ line

/-- The procedure that runs the main program; with the console block it pauses and exits
through its procedures. -/
def wrapper (hasConsole autoExit : Bool) : List String :=
  ["SUB AutoTestWrapper"] ++
  (if hasConsole then ["    CALL DebugPause(\"Starting automated test session...\")"]
    else ["    PRINT \"Starting automated test session...\""]) ++
  ["    CALL OriginalMainProgram"] ++
  (if hasConsole then ["    CALL DebugExit(\"Test session completed successfully\")"]
    else ["    PRINT \"Test session completed successfully\""] ++
      if autoExit then ["    SYSTEM"] else []) ++
  ["END SUB"]

/-- Moves the main program into a procedure of its own. -/
def flowControlLines (options : Options) (lines : List Text) : Draft :=
  let sections := Sections.ofLines lines
  if lines.any wrapperHead.startsText || sections.main.isEmpty then ⟨lines, []⟩
  else ⟨sections.top ++ asLines ["CALL AutoTestWrapper", ""] ++
      asLines (wrapper (hasBlock .console lines) options.autoExit) ++
      asLines ["", "SUB OriginalMainProgram"] ++ sections.mainBody.map indentLine ++
      asLines ["END SUB"] ++
      (if sections.procedures.isEmpty then [] else [] :: sections.procedures),
    [.wrappedMain, .addedFlowControl]⟩

/-! Resources. -/

def bareSystem : Pattern :=
  textStart ++ blanks ++ anyCase "SYSTEM" ++ optional (capture 1 (blanks1 ++ many1 isDecimal)) ++
    blanks ++ textEnd

def debugExitCall : Pattern :=
  textStart ++ blanks ++ anyCase "CALL" ++ blanks1 ++ anyCase "DebugExit" ++ blanks ++
    one (· == '(')

def isExit (line : Text) : Bool :=
  bareSystem.startsText line || bareEnd.startsText line || debugExitCall.startsText line

def cleanupCall : Text := "CALL ResourceManager_Cleanup".toList

def isCleanup (line : Text) : Bool := upper (trim line) == upper cleanupCall

/-- Puts a cleanup before each exit outside blocks that has none. `previous` is the line above. -/
def insertCleanup (previous : Option Text) : List (Text × Bool) → List Text
  | [] => []
  | (line, inside) :: rest =>
      if !inside && isExit line && !previous.any isCleanup then
        (indentation line ++ cleanupCall) :: line :: insertCleanup (some line) rest
      else line :: insertCleanup (some line) rest

def trackFreefile (line : Text) : Text :=
  (keyword "FREEFILE").replaceAll (fun _ => "ResourceManager_GetFileHandle%".toList) line

def resourceLines (lines : List Text) : Draft :=
  let supported := (Draft.mk lines []).addBlock .resources resourceBlock .addedResources
  let tracked := supported.update (editOutside trackFreefile supported.lines) .replacedFreefile
  tracked.update (insertCleanup none (masked tracked.lines)) .addedCleanup

/-! Graphics. -/

def argument (stop : String) : Pattern := many1 (notAmong stop)

def newimageCall : Pattern :=
  anyCase "_NEWIMAGE" ++ blanks ++ one (· == '(') ++ blanks ++ capture 1 (argument ",") ++
    one (· == ',') ++ blanks ++ capture 2 (argument ",") ++ one (· == ',') ++ blanks ++
    capture 3 (argument ")") ++ one (· == ')')

/-- A point statement: its last argument ends before a comment, a colon or the end. -/
def psetStatement : Pattern :=
  notAfter isWordChar ++ anyCase "PSET" ++ blanks ++ one (· == '(') ++ blanks ++
    capture 1 (argument ",") ++ one (· == ',') ++ blanks ++ capture 2 (argument ")") ++
    one (· == ')') ++ blanks ++ one (· == ',') ++ blanks ++ capture 3 (few1 (notAmong ":'")) ++
    ahead (blanks ++ (textEnd ||| one (among ":'")))

def trackedImage (found : Found) : Text :=
  "GraphicsManager_CreateImage&(".toList ++ trim (found.group 1) ++ ", ".toList ++
    trim (found.group 2) ++ [')']

def safePset (found : Found) : Text :=
  "CALL GraphicsManager_SafePSET(".toList ++ trim (found.group 1) ++ ", ".toList ++
    trim (found.group 2) ++ ", ".toList ++ trim (found.group 3) ++ [')']

def graphicsLines (lines : List Text) : Draft :=
  let supported := (Draft.mk lines []).addBlock .graphics
    (graphicsBlock (hasBlock .resources lines)) .addedGraphics
  let tracked := supported.update
    (editOutside (newimageCall.replaceAll trackedImage) supported.lines) .replacedNewimage
  tracked.update (editOutside (psetStatement.replaceAll safePset) tracked.lines) .replacedPset

/-! Logging. -/

def openStatement : Pattern :=
  textStart ++ capture 1 blanks ++ anyCase "OPEN" ++ blanks1 ++ capture 2 (few1 inLine) ++
    blanks1 ++ anyCase "FOR" ++ blanks1 ++ many1 isWordChar ++ blanks1 ++ anyCase "AS" ++
    blanks1 ++ optional (one (· == '#')) ++ blanks ++ many1 isWordChar

def fileLogCall : Text := "CALL LogMessage(\"FILE\"".toList

def fileLog? (line : Text) : Option Text :=
  (openStatement.atStart? line).map fun found =>
    found.group 1 ++ fileLogCall ++ ", \"Opened file: \" + ".toList ++ found.group 2 ++ [')']

def isFileLog (line : Text) : Bool := startsWith fileLogCall (trim line)

def loggingLines (options : Options) (stamp : Text) (lines : List Text) : Draft :=
  let supported := (Draft.mk lines []).addBlock .logging (loggingBlock stamp options.verbose)
    .addedLogging
  supported.update (followOutside fileLog? isFileLog (masked supported.lines)) .addedFileLogging

/-! Screenshots. -/

def drawStatement : Pattern :=
  textStart ++ capture 1 blanks ++ anyOf (["CIRCLE", "LINE", "_PUTIMAGE"].map anyCase) ++
    notAhead (one fun c => c == '$' || isWordChar c) ++ notAhead (blanks1 ++ anyCase "INPUT")

def screenshotCall : Text := "CALL AutoScreenshot".toList

def screenshot? (line : Text) : Option Text :=
  (drawStatement.atStart? line).map fun found => found.group 1 ++ screenshotCall

def isScreenshot (line : Text) : Bool := upper (trim line) == upper screenshotCall

def screenshotLines (stamp : Text) (lines : List Text) : Draft :=
  let supported := (Draft.mk lines []).addBlock .screenshots
    (screenshotBlock stamp (hasBlock .logging lines)) .addedScreenshots
  supported.update (followOutside screenshot? isScreenshot (masked supported.lines))
    .addedAutomaticScreenshots

end BasicBench.Instrument
