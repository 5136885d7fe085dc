import BasicBench.Check.Declared
import BasicBench.Check.Level
import BasicBench.Source.Finding
import BasicBench.Source.Token

/-!
Checks that look at one line of code at a time. Every level reports unbalanced quotes and
parentheses, broken continuations, constructs of other dialects and variables that are assigned
without a declaration; stricter levels add deprecated constructs, mismatched types, and
readability. Only the report of undeclared variables looks beyond its line: a variable is
reported once.
-/

set_option autoImplicit false

namespace BasicBench.Check

open Text Pattern

def lineFinding (line : SourceLine) (column : Nat) (severity : Severity)
    (category message suggestion : String) : Finding :=
  { line := line.number, column, severity, category, message, suggestion := some suggestion,
    origin := .lines }

/-- The text before the first apostrophe outside a string literal. -/
def codeBeforeComment (inString : Bool) : Text → Text
  | [] => []
  | c :: rest =>
      if c = '"' then c :: codeBeforeComment (!inString) rest
      else if c = '\'' && !inString then []
      else c :: codeBeforeComment inString rest

def code (line : SourceLine) : Text := codeBeforeComment false line.text

def quoteFindings (line : SourceLine) : List Finding :=
  if (code line).count '"' % 2 = 0 then []
  else
    let afterLastQuote := (code line).reverse.takeWhile (· != '"')
    [lineFinding line ((code line).length - afterLastQuote.length) .error "unmatched-quotes"
      "Unmatched quotes" "Ensure all quotes are properly closed"]

/-- Whether the parentheses among the tokens are balanced after `depth` open ones. -/
def parenthesesClose (depth : Nat) : List Token → Bool
  | [] => depth == 0
  | token :: rest =>
      if token.kind = .punctuation && token.text == ['('] then parenthesesClose (depth + 1) rest
      else if token.kind = .punctuation && token.text == [')'] then
        match depth with
        | 0 => false
        | depth + 1 => parenthesesClose depth rest
      else parenthesesClose depth rest

def parenthesisFindings (line : SourceLine) : List Finding :=
  if parenthesesClose 0 (Token.ofLine line.text) then []
  else [lineFinding line (max (trimRight line.text).length 1) .error "unmatched-parentheses"
    "Unmatched parentheses" "Check that all parentheses are properly matched"]

/-- A line that ends with an underscore right after something that is no name. -/
def isBrokenContinuation (text : Text) : Bool :=
  match (trimRight text).reverse with
  | '_' :: previous :: _ => previous != ' ' && !(isLetter previous || isDigit previous)
      && (trim text).length > 1
  | _ => false

def continuationFindings (line : SourceLine) : List Finding :=
  if isBrokenContinuation line.text then
    [lineFinding line (trimRight line.text).length .warning "invalid-line-continuation"
      "Line continuation character '_' must be preceded by a space"
      "Add a space before the underscore"]
  else []

/-- A construct that is reported wherever a line has it. -/
structure Construct where
  pattern : Pattern
  name : String
  advice : String

def foreignConstructs : List Construct := [
  ⟨keyword "MsgBox", "MsgBox", "Use INPUT or PRINT statements instead"⟩,
  ⟨wordEdge ++ anyCase "Declare" ++ blanks1 ++ anyCase "Function" ++ wordEdge ++
      notAhead (many inLine ++ keyword "LIBRARY"),
    "Declare Function", "Use $INCLUDE or built-in QB64PE functions"⟩,
  ⟨keyword "ByVal" ||| keyword "ByRef", "ByVal/ByRef",
    "QB64PE passes arguments by reference, use BYVAL only in DECLARE LIBRARY"⟩,
  ⟨keyword "Private" ||| keyword "Public", "Private/Public",
    "Use DIM SHARED for global variables"⟩,
  ⟨keyword "Let" ++ blanks ++ one (· == '='), "Let =",
    "Direct assignment is preferred in QB64PE"⟩,
  ⟨wordEdge ++ anyCase "Option" ++ blanks1 ++ anyCase "Explicit" ++ wordEdge, "Option Explicit",
    "Use OPTION _EXPLICIT in QB64PE"⟩]

def deprecatedConstructs : List Construct := [
  ⟨wordEdge ++ anyCase "DEF" ++ blanks1 ++ anyCase "FN", "DEF FN", "Use FUNCTION instead"⟩,
  ⟨keyword "GOSUB", "GOSUB", "Use SUB procedures instead"⟩,
  ⟨wordEdge ++ anyCase "ON" ++ blanks1 ++ anyCase "ERROR" ++ blanks1 ++ anyCase "RESUME" ++
      blanks1 ++ anyCase "NEXT" ++ wordEdge,
    "ON ERROR RESUME NEXT", "Use an ON ERROR GOTO handler instead"⟩]

def foreignFindings (line : SourceLine) : List Finding :=
  foreignConstructs.filterMap fun construct =>
    (construct.pattern.find? line.text).map fun found =>
      lineFinding line found.column .warning "non-qb64pe-syntax"
        ("'" ++ construct.name ++ "' is not valid QB64PE syntax") construct.advice

def deprecatedFindings (line : SourceLine) : List Finding :=
  deprecatedConstructs.filterMap fun construct =>
    (construct.pattern.find? line.text).map fun found =>
      lineFinding line found.column .warning "deprecated-construct"
        ("'" ++ construct.name ++ "' is deprecated") construct.advice

/-- An assignment, with or without `LET`, or the start of a counted loop. -/
def assignment : Pattern :=
  textStart ++ optional (anyCase "LET" ++ blanks1 ||| anyCase "FOR" ++ blanks1) ++
    capture 1 variableName ++ blanks ++ one (· == '=') ++ notAhead (one (· == '='))

/-- The variable that a line assigns to. -/
def assignedName? (line : SourceLine) : Option Text :=
  (assignment.atStart? line.statement).map (·.group 1)

/-- Whether a name, with or without its type marks, is a keyword. -/
def isReserved (isKeyword : Text → Bool) (name : Text) : Bool :=
  isKeyword name || isKeyword (dropEndWhile (among "$%!#&") name)

/-- The assigned variable of a line when it is neither known nor reserved. -/
def undeclaredName? (isKeyword : Text → Bool) (known : List Text) (line : SourceLine) :
    Option Text :=
  (assignedName? line).filter fun name =>
    !known.contains (upper name) && !isReserved isKeyword (upper name)

def undeclaredFinding (line : SourceLine) (name : Text) : Finding :=
  let shown := String.ofList name
  lineFinding line (((offsetOf? name line.text).map (· + 1)).getD 0) .warning
    "implicit-declaration" s!"Variable '{shown}' may be implicitly declared"
    s!"Consider adding 'DIM {shown} AS <type>' before first use"

def textAssignedNumber : Pattern :=
  capture 1 (many1 isWordChar ++ one (· == '$')) ++ blanks ++ one (· == '=') ++ blanks ++
    capture 2 (many1 isDecimal)

def numberAssignedText : Pattern :=
  capture 1 (wordEdge ++ one (fun c => isLetter c || c == '_') ++ many isWordChar ++
    one (among "%!#&")) ++ blanks ++ one (· == '=') ++ blanks ++ one (· == '"')

def typeFindings (line : SourceLine) : List Finding :=
  ((textAssignedNumber.findAll line.text).map fun found =>
    let name := String.ofList (found.group 1)
    lineFinding line found.column .warning "type-mismatch"
      s!"String variable '{name}' is assigned a numeric value"
      "Use STR$() to convert a number to a string") ++
  (numberAssignedText.findAll line.text).map fun found =>
    let name := String.ofList (found.group 1)
    lineFinding line found.column .warning "type-mismatch"
      s!"Numeric variable '{name}' is assigned a string value"
      "Use VAL() to convert a string to a number, or add the $ sigil"

def longestLine : Nat := 120

def lengthFindings (line : SourceLine) : List Finding :=
  let length := line.text.length
  if length > longestLine then
    [lineFinding line (longestLine + 1) .info "line-length"
      s!"Line is {length} characters long (limit {longestLine})"
      "Consider breaking long lines with ' _' continuations"]
  else []

def constantHead : Pattern := textStart ++ anyCase "CONST" ++ wordEdge

/-- A whole number of three digits or more, other than 100 and 1000. -/
def isMagicNumber (token : Token) : Bool :=
  let digits := dropEndWhile (among "%&!#~") token.text
  token.kind = .number && digits.all isDecimal && digits.length ≥ 3 &&
    digits != "100".toList && digits != "1000".toList

def magicNumberFindings (line : SourceLine) : List Finding :=
  if constantHead.startsText line.statement then []
  else ((Token.ofLine line.text).filter isMagicNumber).map fun token =>
    let value := String.ofList token.text
    lineFinding line token.column .info "magic-number"
      s!"Magic number {value} should be a named constant" "Consider using a named CONST"

/-- What every level reports of a line before its undeclared variable. -/
def basicFindings (line : SourceLine) : List Finding :=
  quoteFindings line ++ parenthesisFindings line ++ continuationFindings line ++
    foreignFindings line

def strictFindings (level : Level) (line : SourceLine) : List Finding :=
  if level.includes .strict then deprecatedFindings line ++ typeFindings line else []

def readabilityFindings (level : Level) (line : SourceLine) : List Finding :=
  if level.includes .bestPractices then lengthFindings line ++ magicNumberFindings line else []

/-- The findings of lines read from top to bottom. `known` holds the declared names and those
already reported. -/
def findingsFrom (level : Level) (isKeyword : Text → Bool) (known : List Text) :
    List SourceLine → List Finding
  | [] => []
  | line :: rest =>
      if line.isCode then
        let checked (undeclared : List Finding) :=
          basicFindings line ++ undeclared ++ strictFindings level line ++
            readabilityFindings level line
        match undeclaredName? isKeyword known line with
        | some name =>
            checked [undeclaredFinding line name] ++
              findingsFrom level isKeyword (upper name :: known) rest
        | none => checked [] ++ findingsFrom level isKeyword known rest
      else findingsFrom level isKeyword known rest

def errorTrap : Pattern := wordEdge ++ anyCase "ON" ++ blanks1 ++ anyCase "ERROR" ++ wordEdge

/-- Programs with more lines than this should handle errors. -/
def longProgram : Nat := 20

/-- Advice on the program as a whole. -/
def programAdvice (level : Level) (lines : List SourceLine) : List String :=
  if level.includes .bestPractices then
    (if lines.any fun line => line.isComment || line.text.elem '\'' then []
      else ["Add comments to explain complex logic"]) ++
    (if lines.any (fun line => errorTrap.occursIn line.text) || lines.length ≤ longProgram then []
      else ["Consider adding error handling for larger programs"])
  else []

/-- The findings of all line checks at a level. -/
def lineFindings (level : Level) (isKeyword : Text → Bool) (lines : List SourceLine) :
    List Finding :=
  findingsFrom level isKeyword (declaredNames lines) lines

end BasicBench.Check
