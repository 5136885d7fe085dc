import BasicBench.Instrument.Issue

/-!
What helps against each kind of issue, and which feature of the instrumentation carries it out.
-/

set_option autoImplicit false

namespace BasicBench.Instrument

inductive Strategy where
  | codeInjection | templateReplacement
  deriving DecidableEq, Repr

def Strategy.label : Strategy → String
  | .codeInjection => "code_injection"
  | .templateReplacement => "template_replacement"

/-- A remedy as it applies to every issue of one kind. -/
structure Advice where
  strategy : Strategy
  priority : Nat
  description : String
  feature : Feature
  rationale : String
  steps : List String
  deriving DecidableEq, Repr

structure Remedy where
  issueId : String
  advice : Advice
  deriving DecidableEq, Repr

def IssueKind.advice : IssueKind → Advice
  | .consoleVisibility => {
      strategy := .codeInjection
      priority := 1
      description :=
        "Inject console management system with $CONSOLE directive and Windows console activation"
      feature := .console
      rationale :=
        "QB64PE programs need explicit console activation to ensure output visibility"
      steps := ["Add $CONSOLE metacommand", "Add _CONSOLE ON for Windows compatibility",
        "Add DEBUG_MODE constant for flow control"] }
  | .flowControl => {
      strategy := .templateReplacement
      priority := 1
      description := "Replace blocking user input with conditional automation-friendly pauses"
      feature := .flowControl
      rationale := "Automated systems need timeout mechanisms to prevent indefinite hanging"
      steps := ["Replace SLEEP with conditional DebugPause function",
        "Add automated timeout for DEBUG_MODE",
        "Maintain interactive behavior for non-debug use"] }
  | .fileHandle => {
      strategy := .codeInjection
      priority := 2
      description := "Implement resource management system to track and cleanup file handles"
      feature := .resources
      rationale := "Proper resource management prevents file locking and compilation errors"
      steps := ["Add ResourceManager system", "Replace FREEFILE with tracked allocation",
        "Add cleanup on program exit"] }
  | .graphicsContext => {
      strategy := .codeInjection
      priority := 2
      description :=
        "Add graphics context management with automatic cleanup and bounds checking"
      feature := .graphics
      rationale :=
        "Graphics programs need careful resource management to prevent memory leaks and crashes"
      steps := ["Add GraphicsManager system", "Track image handles for cleanup",
        "Add bounds checking for graphics operations"] }
  | .processManagement => {
      strategy := .codeInjection
      priority := 3
      description := "Add process management with delays and controlled exit"
      feature := .console
      rationale := "Controlled program termination allows proper observation and cleanup"
      steps := ["Add delays before SYSTEM calls", "Add cleanup routines",
        "Add debug output for process state"] }

/-- One remedy for each issue, the most urgent first. Equal priorities keep the order of their
issues. -/
def remedies (issues : List Issue) : List Remedy :=
  (issues.map fun issue => ⟨issue.id, issue.kind.advice⟩).mergeSort fun a b =>
    a.advice.priority ≤ b.advice.priority

end BasicBench.Instrument
