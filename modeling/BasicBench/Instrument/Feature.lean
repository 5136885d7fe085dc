/-!
The features that instrumentation can add to a program, and what a program shows when it runs.
-/

set_option autoImplicit false

namespace BasicBench.Instrument

inductive Feature where
  | console | flowControl | resources | graphics | logging | screenshots
  deriving DecidableEq, Repr

namespace Feature

def all : List Feature := [.console, .flowControl, .resources, .graphics, .logging, .screenshots]

def label : Feature → String
  | console => "console"
  | flowControl => "flow_control"
  | resources => "resource_tracking"
  | graphics => "graphics"
  | logging => "logging"
  | screenshots => "screenshots"

def title : Feature → String
  | console => "Console Management"
  | flowControl => "Flow Control"
  | resources => "Resource Management"
  | graphics => "Graphics Context Management"
  | logging => "Logging System"
  | screenshots => "Screenshot System"

def ofLabel? (label : String) : Option Feature := all.find? (·.label == label)

end Feature

/-- Where a program shows its output. -/
inductive Mode where
  | console | graphics | mixed
  deriving DecidableEq, Repr

namespace Mode

def all : List Mode := [.console, .graphics, .mixed]

def label : Mode → String
  | console => "console"
  | graphics => "graphics"
  | mixed => "mixed"

def ofLabel? (label : String) : Option Mode := all.find? (·.label == label)

def draws : Mode → Bool
  | console => false
  | graphics | mixed => true

end Mode
end BasicBench.Instrument
