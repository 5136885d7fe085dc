import BasicBench.Instrument.Block
import BasicBench.Number.Binary64

/-!
The support code that instrumentation adds: for each feature that needs any, the lines of its
block. Only the first and the last line of a block look like markers, whatever the delay and
the time stamp; the fixed lines do not name the console directive, which belongs to the console
pass.
-/

set_option autoImplicit false

namespace BasicBench.Instrument

open Text

def asLines (lines : List String) : List Text := lines.map (·.toList)

/-- A tenth of the timeout, in at most six digits; nothing when it is too large for a number. -/
def delayText? (timeout : Int) : Option Text :=
  (Number.Binary64.ofRatio? timeout.natAbs 10).map fun delay =>
    if timeout < 0 then '-' :: Number.sixDigits delay else Number.sixDigits delay

def consoleOpening : List String := [
  "$IF WIN THEN",
  "_CONSOLE ON",
  "$END IF",
  "",
  "CONST DEBUG_MODE = 1"]

def pauseProcedure : List String := [
  "",
  "SUB DebugPause (message AS STRING)",
  "    IF DEBUG_MODE = 1 THEN",
  "        PRINT message + \" (auto-continuing in \" + STR$(AUTO_TEST_DELAY) + \"s...)\"",
  "        _DELAY AUTO_TEST_DELAY",
  "    ELSE",
  "        PRINT message",
  "        SLEEP",
  "    END IF",
  "END SUB",
  ""]

def exitProcedureHead : List String := [
  "SUB DebugExit (message AS STRING)",
  "    PRINT message"]

/-- The wait at the end of the program, which a run without a person cuts short. -/
def timedExit : List String := [
  "    IF DEBUG_MODE = 1 THEN",
  "        PRINT \"Auto-exiting in \" + STR$(AUTO_TEST_DELAY) + \" seconds...\"",
  "        _DELAY AUTO_TEST_DELAY",
  "    ELSE",
  "        PRINT \"Press any key to exit...\"",
  "        SLEEP",
  "    END IF"]

def untimedExit : List String := ["    PRINT \"Press any key to exit...\"", "    SLEEP"]

def exitProcedureEnd : List String := ["    SYSTEM", "END SUB"]

def consoleBody (delay : Text) (autoExit : Bool) : List Text :=
  asLines consoleOpening ++ ["CONST AUTO_TEST_DELAY = ".toList ++ delay] ++
    asLines pauseProcedure ++ asLines exitProcedureHead ++
    asLines (if autoExit then timedExit else untimedExit) ++ asLines exitProcedureEnd

def consoleBlock? (timeout : Int) (autoExit : Bool) : Option (List Text) :=
  (delayText? timeout).map fun delay => block .console (consoleBody delay autoExit)

def resourceBody : List String := [
  "DIM SHARED ResourceManager_FileHandles(100) AS INTEGER",
  "DIM SHARED ResourceManager_ImageHandles(100) AS LONG",
  "DIM SHARED ResourceManager_FileCount AS INTEGER",
  "DIM SHARED ResourceManager_ImageCount AS INTEGER",
  "",
  "SUB ResourceManager_Init",
  "    ResourceManager_FileCount = 0",
  "    ResourceManager_ImageCount = 0",
  "END SUB",
  "",
  "FUNCTION ResourceManager_GetFileHandle%",
  "    DIM handle AS INTEGER",
  "    handle = FREEFILE",
  "    IF ResourceManager_FileCount < 100 THEN",
  "        ResourceManager_FileHandles(ResourceManager_FileCount) = handle",
  "        ResourceManager_FileCount = ResourceManager_FileCount + 1",
  "    END IF",
  "    ResourceManager_GetFileHandle% = handle",
  "END FUNCTION",
  "",
  "SUB ResourceManager_RegisterImage (handle AS LONG)",
  "    IF ResourceManager_ImageCount < 100 THEN",
  "        ResourceManager_ImageHandles(ResourceManager_ImageCount) = handle",
  "        ResourceManager_ImageCount = ResourceManager_ImageCount + 1",
  "    END IF",
  "END SUB",
  "",
  "SUB ResourceManager_Cleanup",
  "    DIM i AS INTEGER",
  "    ' Close any open file handles",
  "    FOR i = 0 TO ResourceManager_FileCount - 1",
  "        IF ResourceManager_FileHandles(i) > 0 THEN",
  "            CLOSE #ResourceManager_FileHandles(i)",
  "        END IF",
  "    NEXT i",
  "    ' Free any image handles",
  "    FOR i = 0 TO ResourceManager_ImageCount - 1",
  "        IF ResourceManager_ImageHandles(i) < -1 THEN",
  "            _FREEIMAGE ResourceManager_ImageHandles(i)",
  "        END IF",
  "    NEXT i",
  "    PRINT \"Resource cleanup completed\"",
  "END SUB",
  "",
  "CALL ResourceManager_Init"]

def resourceBlock : List Text := block .resources (asLines resourceBody)

def graphicsBodyStart : List String := [
  "DIM SHARED GraphicsManager_CurrentDest AS LONG",
  "DIM SHARED GraphicsManager_StackPointer AS INTEGER",
  "DIM SHARED GraphicsManager_DestStack(10) AS LONG",
  "",
  "SUB GraphicsManager_Init",
  "    GraphicsManager_CurrentDest = 0",
  "    GraphicsManager_StackPointer = 0",
  "END SUB",
  "",
  "SUB GraphicsManager_PushDest (newDest AS LONG)",
  "    IF GraphicsManager_StackPointer < 10 THEN",
  "        GraphicsManager_DestStack(GraphicsManager_StackPointer) = _DEST",
  "        GraphicsManager_StackPointer = GraphicsManager_StackPointer + 1",
  "    END IF",
  "    GraphicsManager_CurrentDest = newDest",
  "    _DEST newDest",
  "END SUB",
  "",
  "SUB GraphicsManager_PopDest",
  "    IF GraphicsManager_StackPointer > 0 THEN",
  "        GraphicsManager_StackPointer = GraphicsManager_StackPointer - 1",
  "        _DEST GraphicsManager_DestStack(GraphicsManager_StackPointer)",
  "        GraphicsManager_CurrentDest = _DEST",
  "    END IF",
  "END SUB",
  "",
  "FUNCTION GraphicsManager_CreateImage& (width AS INTEGER, height AS INTEGER)",
  "    DIM img AS LONG",
  "    img = _NEWIMAGE(width, height, 32)",
  "    IF img < -1 THEN"]

/-- Images are registered with the resource block, so the call needs that block. -/
def imageRegistration : List String := ["        CALL ResourceManager_RegisterImage(img)"]

def graphicsBodyEnd : List String := [
  "        PRINT \"Created image handle: \" + STR$(img) + \" (\" + STR$(width) + \"x\"" ++
    " + STR$(height) + \")\"",
  "    ELSE",
  "        PRINT \"ERROR: Failed to create image (\" + STR$(width) + \"x\" + STR$(height) + \")\"",
  "    END IF",
  "    GraphicsManager_CreateImage& = img",
  "END FUNCTION",
  "",
  "SUB GraphicsManager_SafePSET (x AS INTEGER, y AS INTEGER, clr AS LONG)",
  "    IF x >= 0 AND y >= 0 AND x < _WIDTH AND y < _HEIGHT THEN",
  "        PSET (x, y), clr",
  "    END IF",
  "END SUB",
  "",
  "CALL GraphicsManager_Init"]

def graphicsBlock (registerImages : Bool) : List Text :=
  block .graphics (asLines (graphicsBodyStart ++
    (if registerImages then imageRegistration else []) ++ graphicsBodyEnd))

def loggingBodyStart : List String := [
  "DIM SHARED LogFile AS STRING",
  "DIM SHARED LogEnabled AS INTEGER",
  "",
  "SUB LogInit"]

def loggingBodyEnd : List String := [
  "    IF LogEnabled THEN",
  "        OPEN LogFile FOR OUTPUT AS #98",
  "        PRINT #98, \"=== QB64PE DEBUG SESSION STARTED ===\"",
  "        PRINT #98, \"Date: \" + DATE$ + \" Time: \" + TIME$",
  "        PRINT #98, \"Platform: \" + _OS$",
  "        PRINT #98, \"=======================================\"",
  "        CLOSE #98",
  "    END IF",
  "END SUB",
  "",
  "SUB LogMessage (category AS STRING, message AS STRING)",
  "    IF LogEnabled THEN",
  "        OPEN LogFile FOR APPEND AS #98",
  "        PRINT #98, TIME$ + \" [\" + category + \"] \" + message",
  "        CLOSE #98",
  "    END IF",
  "",
  "    DIM oldDest AS LONG",
  "    oldDest = _DEST",
  "    _DEST _CONSOLE",
  "    SELECT CASE UCASE$(category)",
  "        CASE \"ERROR\"",
  "            COLOR 12, 0",
  "        CASE \"WARNING\"",
  "            COLOR 14, 0",
  "        CASE \"SUCCESS\"",
  "            COLOR 10, 0",
  "        CASE \"INFO\"",
  "            COLOR 11, 0",
  "        CASE ELSE",
  "            COLOR 7, 0",
  "    END SELECT",
  "    PRINT \"[\" + category + \"] \" + message",
  "    COLOR 7, 0",
  "    _DEST oldDest",
  "END SUB",
  "",
  "CALL LogInit"]

def loggingBlock (stamp : Text) (verbose : Bool) : List Text :=
  block .logging (asLines loggingBodyStart ++
    ["    LogFile = \"qb64pe-logs/debug_".toList ++ stamp ++ ".log\"".toList,
      (if verbose then "    LogEnabled = 1" else "    LogEnabled = 0").toList] ++
    asLines loggingBodyEnd)

def screenshotBodyStart : List String := [
  "DIM SHARED ScreenshotCounter AS INTEGER",
  "DIM SHARED ScreenshotBase AS STRING",
  "",
  "SUB ScreenshotInit",
  "    ScreenshotCounter = 0"]

def screenshotBodyMiddle : List String := [
  "END SUB",
  "",
  "SUB TakeDebugScreenshot (label AS STRING)",
  "    IF _DEST <> _CONSOLE THEN",
  "        ScreenshotCounter = ScreenshotCounter + 1",
  "        DIM filename AS STRING",
  "        filename = ScreenshotBase + \"_\" + label + \"_\" + RIGHT$(\"000\" +" ++
    " LTRIM$(STR$(ScreenshotCounter)), 3) + \".png\"",
  "        _SAVEIMAGE filename"]

/-- Screenshots are logged with the logging block, so the call needs that block. -/
def screenshotLogging : List String := [
  "        CALL LogMessage(\"SCREENSHOT\", \"Saved: \" + filename + \" (\" + label + \")\")"]

def screenshotBodyEnd : List String := [
  "    END IF",
  "END SUB",
  "",
  "SUB AutoScreenshot",
  "    CALL TakeDebugScreenshot(\"auto\")",
  "END SUB",
  "",
  "CALL ScreenshotInit"]

def screenshotBlock (stamp : Text) (logged : Bool) : List Text :=
  block .screenshots (asLines screenshotBodyStart ++
    ["    ScreenshotBase = \"qb64pe-screenshots/debug_".toList ++ stamp ++ ['"']] ++
    asLines (screenshotBodyMiddle ++ (if logged then screenshotLogging else []) ++
      screenshotBodyEnd))

end BasicBench.Instrument
