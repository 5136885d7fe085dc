import BasicBench.Json.Reader
import BasicBench.Raised

/-!
Taking documents apart. Only an object has members, and whoever asks another value for them gets
a fault.
-/

set_option autoImplicit false

namespace BasicBench.Json.Document

/-- The fault of a value that has no operation of a name. -/
def without (operation : String) (value : Document) : RuntimeFault where
  kind := .part
  message :=
    let kind := kindName value.shown
    s!"'{kind}' object has no attribute '{operation}'"

/-- The members of an object. -/
def items : Document → Except RuntimeFault (List (List Code × Document))
  | object members => .ok members
  | other => .error (other.without "items")

/-- The value of a name, or another value when an object has no such member. -/
def get (value : Document) (name : List Code) (absent : Document) :
    Except RuntimeFault Document :=
  match value with
  | object members => .ok ((members.lookup name).getD absent)
  | other => .error (other.without "get")

def parse (text : List Char) : Except RuntimeFault Document :=
  match read? text with
  | some document => .ok document
  | none => .error { kind := .json, message := "the text is not valid JSON" }

end BasicBench.Json.Document
