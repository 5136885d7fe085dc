import BasicBench.Check.Record
import BasicBench.CommandLine.Command
import BasicBench.CommandLine.Outcome
import BasicBench.Files.Access
import BasicBench.Json.Printer
import BasicBench.Keyword.Builtin
import BasicBench.Keyword.Load

/-!
The command that checks a program: its report goes to the terminal, for people or as JSON, and
the results of single stages go to files beside the program. A file that cannot be written is
passed over.
-/

set_option autoImplicit false

namespace BasicBench.CommandLine

open Check Files

variable {m : Type → Type} [Monad m]

/-- Reads the program at a path, together with the full name of its file; without a path the
program is the input. -/
def readProgram (files : Access m) (path : Option Text) (input : Text) :
    m (Except Complaint (Text × Option Text)) := do
  match givenPath path with
  | none => return .ok (input, none)
  | some path =>
      let fullName := absolute files.home path
      let name := String.ofList path
      match ← files.readText fullName with
      | .ok program => return .ok (program, some fullName)
      | .error (.refused ⟨.notFound, _⟩) => return .error (.caller (.programNotFound name))
      | .error (.refused ⟨.nullCharacter, path⟩) => return .error (.file ⟨.nullCharacter, path⟩)
      | .error fault => return .error (.caller (.programUnreadable name fault.message))

/-- The catalogue that a command works with. No catalogue was asked for before. -/
def catalogFor (files : Access m) (common : Common) : m (Except Complaint Keyword.Catalog) := do
  match ← (Keyword.Catalog.shared Keyword.Entry.make files common.catalogPath).run' [] with
  | .ok catalog => return .ok catalog
  | .error fault => return .error (.raised fault)

/-- Writes the results of the stages that are to be kept. -/
def keepStages (files : Access m) (report : Report) (stem : Text) : List Stage → m Unit
  | [] => return ()
  | stage :: rest => do
      let path := stem ++ ['.'] ++ stage.label.toList ++ ".json".toList
      let _ ← files.write path (stage.toJson report).pretty.toList
      keepStages files report stem rest

def severityColour : Severity → Colour
  | .error => .red
  | .warning => .yellow
  | .info => .cyan

def findingText (finding : Finding) : String :=
  coloured (severityColour finding.severity)
    (toString finding.line ++ ":" ++ toString finding.column ++ "  " ++
      padRight 7 finding.severity.label ++ " [" ++ finding.category ++ "] " ++
      finding.message) ++ "\n" ++
  (match finding.suggestion.filter (· != "") with
    | some suggestion => "    -> " ++ suggestion ++ "\n"
    | none => "") ++
  (if finding.alternatives.isEmpty then ""
    else "    -> Did you mean: " ++ ", ".intercalate finding.alternatives ++ "\n")

def adviceText (advice : List String) : String :=
  if advice.isEmpty then ""
  else "\nSuggestions:\n" ++ String.join (advice.map fun line => "  - " ++ line ++ "\n")

def countsText (report : Report) : String :=
  let errors := (report.ofSeverity .error).length
  let warnings := (report.ofSeverity .warning).length
  let infos := (report.ofSeverity .info).length
  let score := report.score
  s!"\nErrors: {errors}  Warnings: {warnings}  Info: {infos}  Score: {score}/100\n"

def verdictText (isValid : Bool) : String :=
  "\n" ++ (if isValid then coloured .green "--- Validation Passed ---"
    else coloured .red "--- Validation Failed ---") ++ "\n"

/-- The report for people. -/
def reportText (report : Report) (name : String) : String :=
  "--- Validating " ++ name ++ " (" ++ report.level.label ++ ") ---\n" ++
    String.join (report.findings.map findingText) ++ adviceText report.advice ++
    countsText report ++ verdictText report.isValid

/-- How the program at a path is called. -/
def displayName (path : Option Text) : String :=
  ((givenPath path).map String.ofList).getD "stdin"

def validate (files : Access m) (common : Common) (command : ValidateCommand) (input : Text) :
    m Outcome := do
  match ← readProgram files command.path input with
  | .error complaint =>
      return { Outcome.complaining complaint with isTimed := !command.asJson }
  | .ok (program, fullName) =>
      match ← catalogFor files common with
      | .error complaint =>
          return { Outcome.complaining complaint with isTimed := !command.asJson }
      | .ok catalog =>
          let report := Report.ofText program command.level catalog
          let stem := match fullName with
            | some fullName => (splitExtension fullName).1
            | none => "stdin_output".toList
          keepStages files report stem
            (Stage.all.filter fun stage => command.kept.contains stage)
          return {
            code := if report.isValid then 0 else 1
            output := if command.asJson then report.toJson.pretty ++ "\n"
              else reportText report (displayName command.path)
            isTimed := !command.asJson }

end BasicBench.CommandLine
