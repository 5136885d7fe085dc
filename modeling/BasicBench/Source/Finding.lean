import BasicBench.Keyword.Entry

/-!
What the checks report. A finding names a place in the text that was checked, by one-based line
and column, and the check that reported it; it never refers to instrumented text.
-/

set_option autoImplicit false

namespace BasicBench

inductive Severity where
  | error | warning | info
  deriving DecidableEq, Repr

def Severity.label : Severity → String
  | .error => "error"
  | .warning => "warning"
  | .info => "info"

def Severity.all : List Severity := [.error, .warning, .info]

/-- The check a finding comes from. -/
inductive Origin where
  | blocks | lines | dialect | keywords
  deriving DecidableEq, Repr

def Origin.label : Origin → String
  | .blocks => "structure"
  | .lines => "syntax"
  | .dialect => "compatibility"
  | .keywords => "keyword"

/-- A faulty line of code and its repaired form. -/
structure CodeExample where
  incorrect : String
  correct : String
  deriving DecidableEq, Repr

structure Finding where
  line : Nat
  column : Nat := 1
  severity : Severity
  category : String
  message : String
  suggestion : Option String := none
  codeExample : Option CodeExample := none
  origin : Origin
  matched : Option String := none
  keyword : Option String := none
  entry : Option Keyword.Entry := none
  alternatives : List String := []
  deriving DecidableEq, Repr

end BasicBench
