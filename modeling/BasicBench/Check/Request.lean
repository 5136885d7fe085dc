import BasicBench.Check.Report
import BasicBench.Failure

/-!
Checking a program that comes as a JSON value, at a level that comes as a JSON value. The
program is looked at first: a value that is no text is refused whatever the level.
-/

set_option autoImplicit false

namespace BasicBench.Check

def levelOf? (level : Json) : Option Level := level.text?.bind Level.ofLabel?

def allowedLevels : String := ", ".intercalate (Level.all.map Level.label)

/-- The report on a program, or why there is none. -/
def checkValue (source level : Json) (catalog : Keyword.Catalog) : Except Failure Report :=
  match source, levelOf? level with
  | .text program, some level => .ok (Report.ofText program.toList level catalog)
  | .text _, none => .error (.unknownLevel level.display allowedLevels)
  | other, _ => .error (.sourceNotText other.kindName)

end BasicBench.Check
