import BasicBench.Failure
import BasicBench.Files.Fault
import BasicBench.Number.Binary64
import BasicBench.Sessions.Enhance
import BasicBench.Time.Moment

/-!
What a command leaves behind on the terminal: its exit code, its output, and the complaint that
ended it. Most commands close with the time they took, also when they fail.
-/

set_option autoImplicit false

namespace BasicBench.CommandLine

inductive Colour where
  | red | green | yellow | cyan
  deriving DecidableEq, Repr

def Colour.code : Colour → String
  | red => "\x1b[91m"
  | green => "\x1b[92m"
  | yellow => "\x1b[93m"
  | cyan => "\x1b[96m"

def coloured (colour : Colour) (text : String) : String := colour.code ++ text ++ "\x1b[0m"

/-- A text with blanks behind it up to a width. -/
def padRight (width : Nat) (text : String) : String := text.pushn ' ' (width - text.length)

/-- A text with blanks before it up to a width. -/
def padLeft (width : Nat) (text : String) : String := "".pushn ' ' (width - text.length) ++ text

/-- A time in nanoseconds as seconds with four places. -/
def secondsText (nanoseconds : Nat) : String :=
  let ticks := Number.roundDiv nanoseconds 100000
  toString (ticks / 10000) ++ "." ++ Time.padded 4 (ticks % 10000)

/-- Why a command ends early. -/
inductive Complaint where
  | caller (failure : Failure)
  | options (problems : List Json.Problem)
  | noFreeId
  | delayTooLarge
  | file (fault : Files.FileFault)
  /-- Standard input holds no text. -/
  | input (error : Text.Utf8Error)
  | raised (fault : RuntimeFault)

namespace Complaint

def ofEnhanceFault : Sessions.EnhanceFault → Complaint
  | .badOptions problems => options problems
  | .noFreeId => noFreeId
  | .delayTooLarge => delayTooLarge

/-- The kind of an unexpected complaint; a failure that callers cause is expected. -/
def kindName? : Complaint → Option String
  | caller _ => none
  | options _ => some "ValidationError"
  | noFreeId => some "SessionError"
  | delayTooLarge => some "OverflowError"
  | file fault => some fault.refusal.kindName
  | input _ => some "UnicodeDecodeError"
  | raised fault => some fault.kind.label

def message : Complaint → String
  | caller failure => failure.message
  | options problems => s!"{problems.length} options do not fit"
  | noFreeId => "no session id is free"
  | delayTooLarge => "integer division result too large for a float"
  | file fault => fault.message
  | input error => error.message
  | raised fault => fault.message

def heading : String :=
  "\n" ++ coloured .red "--- UNEXPECTED ERROR ---" ++
    "\nThis may be a bug in qbdev. Please report it.\n"

def text (complaint : Complaint) : String :=
  match complaint.kindName? with
  | none => "\n" ++ coloured .red ("--- ERROR ---\n" ++ complaint.message) ++ "\n"
  | some kind => heading ++ kind ++ ": " ++ complaint.message ++ "\n"

end Complaint

structure Outcome where
  code : Nat
  output : String
  complaint : Option Complaint := none
  isTimed : Bool := true

namespace Outcome

def success (output : String) : Outcome := { code := 0, output }

def complaining (complaint : Complaint) : Outcome :=
  { code := 1, output := "", complaint := some complaint }

/-- The line that closes a timed command. -/
def timeText (outcome : Outcome) (seconds : String) : String :=
  if outcome.isTimed then
    "\n" ++ coloured .cyan ("--- Total Execution Time: " ++ seconds ++ " seconds ---") ++ "\n"
  else ""

def errorText (outcome : Outcome) : String := (outcome.complaint.map (·.text)).getD ""

end Outcome
end BasicBench.CommandLine
