import BasicBench.Instrument.Issue
import BasicBench.Instrument.Pass

/-!
The whole instrumentation: the passes that the options and the mode select, in a fixed order,
each on the output of the one before. A pass keeps whether the text ends with a line feed.
-/

set_option autoImplicit false

namespace BasicBench.Instrument

open Text

/-- A program after a pass or several passes. -/
structure Revision where
  program : Text
  changes : List Change

/-- The lines of a draft as a program; a pass without changes to report keeps the text. -/
def Draft.toProgram (draft : Draft) (source : Text) : Revision :=
  ⟨joinLines draft.lines (endsWithNewline source), draft.changes⟩

/-- Runs one pass. Nothing comes out when the delay of the console block would be too large. -/
def runPass? (options : Options) (stamp : Text) (feature : Feature) (program : Text) :
    Option Revision :=
  let lines := splitLines program
  match feature with
  | .console => (consoleLines? options lines).map (·.toProgram program)
  | .flowControl =>
      let draft := flowControlLines options lines
      some (if draft.changes.isEmpty then ⟨program, []⟩ else draft.toProgram program)
  | .resources => some ((resourceLines lines).toProgram program)
  | .graphics => some ((graphicsLines lines).toProgram program)
  | .logging => some ((loggingLines options stamp lines).toProgram program)
  | .screenshots => some ((screenshotLines stamp lines).toProgram program)

/-- Whether a feature is wanted. Graphics need a program that draws. -/
def isSelected (options : Options) (mode : Mode) : Feature → Bool
  | .console => options.console
  | .flowControl => options.flowControl
  | .resources => options.resources
  | .graphics => mode.draws
  | .logging => options.logging
  | .screenshots => options.screenshots && mode.draws

def selected (options : Options) (mode : Mode) : List Feature :=
  Feature.all.filter (isSelected options mode)

def runPasses? (options : Options) (stamp : Text) (program : Text) :
    List Feature → Option Revision
  | [] => some ⟨program, []⟩
  | feature :: rest => do
      let first ← runPass? options stamp feature program
      let last ← runPasses? options stamp first.program rest
      some ⟨last.program, first.changes ++ last.changes⟩

structure Instrumented where
  program : Text
  changes : List Change
  features : List Feature

/-- Instruments a program for a mode. -/
def instrument? (options : Options) (mode : Mode) (stamp : Text) (program : Text) :
    Option Instrumented :=
  (runPasses? options stamp program (selected options mode)).map fun revision =>
    ⟨revision.program, revision.changes, selected options mode⟩

/-- Instruments a program for the mode that its words tell. -/
def instrumentDetected? (options : Options) (stamp : Text) (program : Text) :
    Option Instrumented :=
  instrument? options (Mode.detect program) stamp program

end BasicBench.Instrument
