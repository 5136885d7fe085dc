import BasicBench.CommandLine.Run
import Std.Time

/-!
The command line program: files, clock and standard streams for the commands.
-/

set_option autoImplicit false

namespace BasicBench.Program

open CommandLine Files

/-- The number of a system error, which some operations report with the sign changed. -/
def errorNumber (number : UInt32) : Nat :=
  if number.toNat < Nat.pow 2 31 then number.toNat else Nat.pow 2 32 - number.toNat

/-- The refusal behind a failed operation. -/
def refusalOf : IO.Error → Refusal
  | .noFileOrDirectory _ number text | .interrupted _ number text
  | .alreadyExists _ number text | .inappropriateType _ number text
  | .permissionDenied _ number text | .invalidArgument _ number text
  | .resourceExhausted _ number text | .noSuchThing _ number text
  | .otherError number text | .resourceBusy number text | .resourceVanished number text
  | .unsupportedOperation number text | .hardwareFault number text
  | .unsatisfiedConstraints number text | .illegalOperation number text
  | .protocolError number text | .timeExpired number text =>
      .ofNumber (errorNumber number) text
  | .unexpectedEof => .other 0 "unexpected end of file"
  | .userError text => .other 0 text

def attempt {Value : Type} (path : Text) (action : IO Value) : IO (Except FileFault Value) := do
  match ← action.toBaseIO with
  | .ok value => return .ok value
  | .error error => return .error ⟨refusalOf error, path⟩

def succeeds {Value : Type} (action : IO Value) : IO Bool := do
  match ← action.toBaseIO with
  | .ok _ => return true
  | .error _ => return false

def opens (path : String) : IO Bool := succeeds (IO.FS.Handle.mk path .read)

/-- The files of the operating system. Only a folder has an entry for itself. -/
def systemFiles (home : String) : Access IO where
  home := home.toList
  holds path := opens (String.ofList path)
  holdsFolder path := opens (String.ofList path ++ "/.")
  read path := attempt path do return (← IO.FS.readBinFile (String.ofList path)).toList
  write path text := attempt path (IO.FS.writeFile (String.ofList path) (String.ofList text))
  makeFolder path := attempt path (IO.FS.createDir (String.ofList path))

/-- How much is read at once. -/
def chunkSize : USize := 65536

partial def readAll (input : IO.FS.Stream) (bytes : ByteArray) : IO ByteArray := do
  let chunk ← input.read chunkSize
  if chunk.isEmpty then return bytes else readAll input (bytes ++ chunk)

/-- The present time. -/
def presentMoment : IO Time.Moment := do
  let now ← Std.Time.PlainDateTime.now
  return {
    year := now.date.year.toNat
    month := now.date.month.val.toNat
    day := now.date.day.val.toNat
    hour := now.time.hour.val.toNat
    minute := now.time.minute.val.toNat
    second := now.time.second.val.toNat
    microsecond := now.time.nanosecond.val.toNat / 1000 }

def randomDigit : IO (Fin 36) := return Fin.ofNat 36 (← IO.rand 0 35)

def circumstances : IO Sessions.Circumstances := do
  let moment ← presentMoment
  let milliseconds := (← Std.Time.Timestamp.now).toMillisecondsSinceUnixEpoch.val.toNat
  let suffix ← (List.replicate 9 randomDigit).mapM id
  return ⟨[Sessions.idAt milliseconds suffix], moment.text, moment.stamp.toList⟩

def usage : String :=
  "usage: qbdev [-h] [-v] [--keywords-db PATH] validate|enhance|keywords ...\n\n" ++
  "validate [-l LEVEL] [--dump STAGE] [--json] [FILE]\n" ++
  "enhance [-o FILE] [--no-console] [--no-logging] [--no-screenshots] [--no-flow-control]\n" ++
  "        [--no-resource-tracking] [--timeout SECONDS] [--no-auto-exit]\n" ++
  "        [--session-log FOLDER] [--no-session-log] [FILE]\n" ++
  "keywords [-n COUNT] QUERY"

/-- Carries out a command on the standard streams. -/
def perform (invocation : Invocation) (input : IO.FS.Stream) : IO Outcome := do
  let bytes ← if invocation.readsInput then readAll input .empty else pure .empty
  match Text.decodeUtf8 bytes.toList with
  | .error error => return .complaining (.input error)
  | .ok text =>
      let home := (← IO.currentDir).toString
      run (systemFiles home) invocation text (← circumstances)

end BasicBench.Program

open BasicBench in
def main (arguments : List String) : IO UInt32 := do
  let started ← IO.monoNanosNow
  let input ← IO.getStdin
  match CommandLine.Invocation.ofWords (arguments.map (·.toList)) (← input.isTty) with
  | .error .help => IO.println Program.usage; return 0
  | .error .misuse => IO.eprintln Program.usage; return 2
  | .ok invocation =>
      let outcome ← Program.perform invocation input
      IO.print outcome.output
      IO.eprint outcome.errorText
      IO.print (outcome.timeText (CommandLine.secondsText ((← IO.monoNanosNow) - started)))
      return UInt32.ofNat outcome.code
