import BasicBench.Json.Schema

/-!
What the caller wants of the instrumentation. Every option has a default, and as JSON each may
be named in either of two spellings, of which the one without underscores counts first.
-/

set_option autoImplicit false

namespace BasicBench.Instrument

open Json

structure Options where
  console : Bool := true
  logging : Bool := true
  screenshots : Bool := true
  flowControl : Bool := true
  resources : Bool := true
  timeout : Int := 30
  autoExit : Bool := true
  verbose : Bool := true
  deriving DecidableEq, Repr

namespace Options

def yesOrNo (names : List String) (record : Json) : Reading Bool :=
  field names readYesOrNo (.ok true) record

/-- Reads options from an object; no value at all means the defaults. -/
def read (value : Json) : Reading Options :=
  match value with
  | .null => .ok {}
  | .object _ =>
      Reading.ok Options.mk
        |>.part (yesOrNo ["enableConsole", "enable_console"] value)
        |>.part (yesOrNo ["enableLogging", "enable_logging"] value)
        |>.part (yesOrNo ["enableScreenshots", "enable_screenshots"] value)
        |>.part (yesOrNo ["enableFlowControl", "enable_flow_control"] value)
        |>.part (yesOrNo ["enableResourceTracking", "enable_resource_tracking"] value)
        |>.part (field ["timeoutSeconds", "timeout_seconds"] readPositive (.ok 30) value)
        |>.part (yesOrNo ["autoExit", "auto_exit"] value)
        |>.part (yesOrNo ["verboseOutput", "verbose_output"] value)
  | _ => .fail .notObject

def toJson (options : Options) : Json := .object [
  ("enable_console", .bool options.console), ("enable_logging", .bool options.logging),
  ("enable_screenshots", .bool options.screenshots),
  ("enable_flow_control", .bool options.flowControl),
  ("enable_resource_tracking", .bool options.resources),
  ("timeout_seconds", .int options.timeout), ("auto_exit", .bool options.autoExit),
  ("verbose_output", .bool options.verbose)]

end Options
end BasicBench.Instrument
