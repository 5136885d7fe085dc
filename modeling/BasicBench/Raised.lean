import BasicBench.Failure
import BasicBench.Json.Schema

/-!
What an operation may raise in place of a result: a failure, which its caller can cause, or a
fault. Some kinds of faults are special cases of others, so whoever answers for a kind answers
for its special cases too. A fault that nobody answers for goes on to the caller as it is.
-/

set_option autoImplicit false

namespace BasicBench

inductive FaultKind where
  /-- The operating system refuses. -/
  | system
  /-- A text is not what it is taken for. -/
  | value
  /-- Bytes are no text. -/
  | decoding
  /-- A text is not JSON. -/
  | json
  /-- The fields of a record do not fit. -/
  | validation
  /-- A value has no part of the name that is asked for. -/
  | part
  /-- A value is no argument for what is done with it. -/
  | type
  | other (name : String)
  deriving DecidableEq, Repr

namespace FaultKind

/-- The kind that a kind is a special case of. -/
def general? : FaultKind → Option FaultKind
  | decoding | json | validation => some value
  | system | value | part | type | other _ => none

/-- Whether who answers for a kind answers for this one. -/
def isA (kind general : FaultKind) : Bool := kind = general || kind.general? = some general

def label : FaultKind → String
  | system => "OSError"
  | value => "ValueError"
  | decoding => "UnicodeDecodeError"
  | json => "JSONDecodeError"
  | validation => "ValidationError"
  | part => "AttributeError"
  | type => "TypeError"
  | other name => name

end FaultKind

structure RuntimeFault where
  kind : FaultKind
  message : String
  /-- What is wrong with a record whose fields do not fit. -/
  problems : List Json.Problem := []
  deriving DecidableEq, Repr

inductive Raised where
  | failure (failure : Failure)
  | fault (fault : RuntimeFault)
  deriving DecidableEq, Repr

end BasicBench
