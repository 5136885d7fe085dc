/-!
How strict the checks are. Each level runs the checks of the levels before it.
-/

set_option autoImplicit false

namespace BasicBench.Check

inductive Level where
  | basic | strict | bestPractices
  deriving DecidableEq, Repr

namespace Level

def all : List Level := [.basic, .strict, .bestPractices]

def label : Level → String
  | basic => "basic"
  | strict => "strict"
  | bestPractices => "best-practices"

def rank : Level → Nat
  | basic => 0
  | strict => 1
  | bestPractices => 2

def includes (level other : Level) : Bool := other.rank ≤ level.rank

def ofLabel? (label : String) : Option Level := all.find? (·.label == label)

theorem ofLabel_label (level : Level) : ofLabel? level.label = some level := by
  cases level <;> decide

end Level
end BasicBench.Check
