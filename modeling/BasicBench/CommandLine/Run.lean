import BasicBench.CommandLine.Enhance
import BasicBench.Keyword.Search

/-!
Carrying out a command. Searching the catalogue needs nothing but the catalogue; it fails when
nothing matches.
-/

set_option autoImplicit false

namespace BasicBench.CommandLine

open Files Keyword Sessions

variable {m : Type → Type} [Monad m]

/-- A match on a line of its own and, on request, how the keyword is written on the next. -/
def matchText (verbose : Bool) (found : Match) : String :=
  let entry := found.entry
  coloured .cyan (padRight 16 entry.name) ++ " " ++ padLeft 3 (toString found.relevance) ++
    "  " ++ padRight 11 entry.kind.label ++ " " ++ entry.description ++ "\n" ++
  if verbose && entry.usage != "" then padRight 21 "" ++ entry.usage ++ "\n" else ""

def keywords (files : Access m) (common : Common) (command : KeywordsCommand) : m Outcome := do
  match ← catalogFor files common with
  | .error complaint => return .complaining complaint
  | .ok catalog =>
      match catalog.search command.query command.limit with
      | [] =>
          let query := String.ofList command.query
          return { code := 1, output := s!"No keywords match '{query}'.\n" }
      | found => return .success (String.join (found.map (matchText common.verbose)))

/-- Carries out a command. `input` is the text of standard input, which only a command that
reads its program from there looks at. -/
def run (files : Access m) (invocation : Invocation) (input : Text)
    (circumstances : Circumstances) : m Outcome :=
  match invocation.command with
  | .validate command => validate files invocation.common command input
  | .enhance command => enhance files command input circumstances
  | .keywords command => keywords files invocation.common command

end BasicBench.CommandLine
