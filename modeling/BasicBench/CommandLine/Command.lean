import BasicBench.Check.Report
import BasicBench.CommandLine.Words
import BasicBench.Instrument.Options
import BasicBench.Number.Integer

/-!
The commands and their options. A command line names exactly one command; the options before it
are the same for all commands, the ones after it are its own.
-/

set_option autoImplicit false

namespace BasicBench.CommandLine

open Check Instrument

/-- What all commands share. -/
structure Common where
  verbose : Bool := false
  /-- A catalogue to use instead of the built-in one. -/
  catalogPath : Option Text := none

/-- Checking a program; without a path it is read from standard input. -/
structure ValidateCommand where
  path : Option Text := none
  level : Level := .basic
  /-- The stages whose results are written to files. -/
  kept : List Stage := []
  asJson : Bool := false

/-- Instrumenting a program. -/
structure EnhanceCommand where
  path : Option Text := none
  output : Option Text := none
  options : Options := {}
  journalFolder : Text := ".qbdev/sessions".toList
  keepsJournal : Bool := true

/-- Searching the catalogue. -/
structure KeywordsCommand where
  query : Text
  limit : Int

inductive Command where
  | validate (command : ValidateCommand)
  | enhance (command : EnhanceCommand)
  | keywords (command : KeywordsCommand)

structure Invocation where
  common : Common
  command : Command

/-- An empty path is no path. -/
def givenPath (path : Option Text) : Option Text := path.filter (!·.isEmpty)

/-- Whether the program to work on comes from standard input. -/
def Invocation.readsInput (invocation : Invocation) : Bool :=
  match invocation.command with
  | .validate command => (givenPath command.path).isNone
  | .enhance command => (givenPath command.path).isNone
  | .keywords _ => false

def helpRule {Settings : Type} : OptionRule Settings := ⟨["-h", "--help"], .help⟩

def commonRules : List (OptionRule Common) := [
  helpRule,
  ⟨["-v", "--verbose"], .flag fun common => { common with verbose := true }⟩,
  ⟨["--keywords-db"], .value fun path common => some { common with catalogPath := some path }⟩]

def validateRules : List (OptionRule ValidateCommand) := [
  helpRule,
  ⟨["-l", "--level"], .value fun label command =>
    (Level.ofLabel? (String.ofList label)).map fun level => { command with level }⟩,
  ⟨["--dump"], .value fun label command =>
    (Stage.all.find? fun stage => stage.label.toList == label).map fun stage =>
      { command with kept := command.kept ++ [stage] }⟩,
  ⟨["--json"], .flag fun command => { command with asJson := true }⟩]

/-- An option that takes something away from the instrumentation. -/
def withoutRule (name : String) (change : Options → Options) : OptionRule EnhanceCommand :=
  ⟨[name], .flag fun command => { command with options := change command.options }⟩

def enhanceRules : List (OptionRule EnhanceCommand) := [
  helpRule,
  ⟨["-o", "--output"], .value fun path command => some { command with output := some path }⟩,
  withoutRule "--no-console" fun options => { options with console := false },
  withoutRule "--no-logging" fun options => { options with logging := false },
  withoutRule "--no-screenshots" fun options => { options with screenshots := false },
  withoutRule "--no-flow-control" fun options => { options with flowControl := false },
  withoutRule "--no-resource-tracking" fun options => { options with resources := false },
  ⟨["--timeout"], .value fun text command => (Number.integer? text).map fun timeout =>
    { command with options := { command.options with timeout } }⟩,
  withoutRule "--no-auto-exit" fun options => { options with autoExit := false },
  ⟨["--session-log"], .value fun path command => some { command with journalFolder := path }⟩,
  ⟨["--no-session-log"], .flag fun command => { command with keepsJournal := false }⟩]

/-- The number of matches to show when none is given. -/
def usualLimit : Int := 10

def keywordsRules : List (OptionRule Int) := [
  helpRule,
  ⟨["-n", "--max-results"], .value fun text _ => Number.integer? text⟩]

/-- The path of a command that takes at most one. -/
def atMostOne : List Text → Except Usage (Option Text)
  | [] => .ok none
  | [path] => .ok (some path)
  | _ => .error .misuse

def readValidate (words : List Text) : Except Usage Command := do
  let (command, others) ← readWords validateRules {} words
  return .validate { command with path := ← atMostOne others }

def readEnhance (words : List Text) : Except Usage Command := do
  let (command, others) ← readWords enhanceRules {} words
  return .enhance { command with path := ← atMostOne others }

def readKeywords (words : List Text) : Except Usage Command := do
  let (limit, others) ← readWords keywordsRules usualLimit words
  match others with
  | [query] => return .keywords ⟨query, limit⟩
  | _ => throw .misuse

def readCommand (name : Text) (words : List Text) : Except Usage Command :=
  if name = "validate".toList then readValidate words
  else if name = "enhance".toList then readEnhance words
  else if name = "keywords".toList then readKeywords words
  else .error .misuse

/-- Reads a command line. A program cannot come from a terminal, where nobody ends it. -/
def Invocation.ofWords (words : List Text) (inputIsTerminal : Bool) :
    Except Usage Invocation := do
  if hasAmbiguous commonRules words then throw .misuse
  match ← readOptions commonRules { settings := {} } words with
  | (progress, name :: rest) =>
      let invocation : Invocation := ⟨progress.settings, ← readCommand name rest⟩
      if !progress.isUnderstood || (invocation.readsInput && inputIsTerminal) then throw .misuse
      else return invocation
  | _ => throw .misuse

end BasicBench.CommandLine
