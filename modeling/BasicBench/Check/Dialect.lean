import BasicBench.Source.Finding
import BasicBench.Source.Line
import BasicBench.Text.Pattern

/-!
Constructs of other BASIC dialects. Every rule is a pattern with its wording, and the rules do
not depend on each other: a line yields at most one finding for each rule, at the leftmost
match. One rule is about arrays without a fixed size and falls silent from the line on which a
program, even in a comment, asks for dynamic arrays.
-/

set_option autoImplicit false

namespace BasicBench.Check

open Text Pattern

structure DialectRule where
  category : String
  pattern : Pattern
  severity : Severity
  message : String
  advice : String
  codeExample : Option CodeExample := none

namespace DialectRule

def finding? (rule : DialectRule) (line : SourceLine) : Option Finding :=
  (rule.pattern.find? line.text).map fun found =>
    { line := line.number, column := found.column, severity := rule.severity,
      category := rule.category, message := rule.message, suggestion := some rule.advice,
      codeExample := rule.codeExample, origin := .dialect,
      matched := some (String.ofList found.text) }

/-- Whether the rule is silenced by a request for dynamic arrays. -/
def isAboutFixedArrays (rule : DialectRule) : Bool := rule.category == "dynamic_arrays"

end DialectRule

def word1 : Pattern := many1 isWordChar

/-- Parentheses with what stands between them, which has no closing parenthesis. -/
def parenthesised (inside : Pattern) : Pattern := one (· == '(') ++ inside ++ one (· == ')')

def functionWithType : Pattern :=
  anyCase "FUNCTION" ++ blanks1 ++ capture 1 word1 ++ blanks ++
    parenthesised (many (· != ')')) ++ blanks1 ++ anyCase "AS" ++ blanks1

def builtinType : Pattern :=
  anyOf (["INTEGER", "LONG", "SINGLE", "DOUBLE", "STRING", "_INTEGER64", "_FLOAT", "_BYTE",
    "_BIT", "_OFFSET", "_UNSIGNED", "_MEM"].map anyCase)

def isSigil (c : Char) : Bool := among "$%&!#" c

/-- A name with bounds and a type, as in an array declaration. -/
def typedArray : Pattern :=
  word1 ++ many isSigil ++ blanks ++ parenthesised (many1 (· != ')')) ++ blanks1 ++
    anyCase "AS" ++ blanks1 ++ word1

def conditional : Pattern :=
  anyCase "IF" ++ blanks1 ++ many1 inLine ++ blanks1 ++ anyCase "THEN"

def anyKeyword (words : List String) : Pattern :=
  wordEdge ++ capture 1 (anyOf (words.map anyCase)) ++ wordEdge

def notInName (c : Char) : Bool := isWordChar c || c == '$'

def onOffStop : Pattern := anyCase "ON" ||| anyCase "OFF" ||| anyCase "STOP"

def playChannel : Pattern := anyCase "PLAY" ++ parenthesised (many1 isDecimal)

def deviceAccess : Pattern :=
  wordEdge ++ capture 1 (anyOf [
    anyCase "ON" ++ blanks1 ++ anyCase "PEN",
    anyCase "PEN" ++ blanks1 ++ capture 2 onOffStop,
    anyCase "ON" ++ blanks1 ++ playChannel,
    playChannel ++ blanks1 ++ capture 3 onOffStop,
    anyCase "ON" ++ blanks1 ++ anyCase "UEVENT",
    anyCase "UEVENT"]) ++ wordEdge

/-- The words themselves, wherever they stand. -/
def legacyWord : Pattern :=
  capture 1 (anyOf [
    anyCase "DEF" ++ blanks1 ++ anyCase "FN", anyCase "TRON", anyCase "TROFF",
    anyCase "SETMEM", anyCase "SIGNAL", anyCase "ERDEV" ++ optional (one (· == '$')),
    anyCase "FILEATTR", anyCase "FRE", anyCase "IOCTL" ++ optional (one (· == '$'))])

def legacyKeyword : Pattern := wordEdge ++ legacyWord ++ notAhead (one notInName)

def dynamicBound : Pattern := one isLetterForm ++ many isWordChar

def arrayWithVariableBound : Pattern :=
  textStart ++ blanks ++ anyCase "DIM" ++ blanks1 ++ optional (anyCase "SHARED" ++ blanks1) ++
    word1 ++ many isSigil ++ blanks ++
    parenthesised (blanks ++ dynamicBound ++ blanks ++
      optional (anyCase "TO" ++ blanks1 ++ dynamicBound) ++ blanks) ++
    blanks1 ++ anyCase "AS"

def dialectRules : List DialectRule := [
  { category := "function_return_types"
    pattern := functionWithType ++ capture 2 word1
    severity := .error
    message := "Function return types must use type sigils, not AS clauses"
    advice := "Use FUNCTION name%(params) instead of FUNCTION name(params) AS INTEGER"
    codeExample := some
      ⟨"FUNCTION NearestPaletteIndex(r AS INTEGER, g AS INTEGER, b AS INTEGER) AS INTEGER",
        "FUNCTION NearestPaletteIndex%(r AS INTEGER, g AS INTEGER, b AS INTEGER)"⟩ },
  { category := "udt_return_types"
    pattern := functionWithType ++ notAhead (builtinType ++ wordEdge) ++ capture 2 word1
    severity := .error
    message := "Functions cannot return user-defined types"
    advice :=
      "Pass a variable of the user-defined type as an extra parameter and fill it in a SUB"
    codeExample := some
      ⟨"FUNCTION MakePoint(x AS SINGLE, y AS SINGLE) AS Point2D",
        "SUB MakePoint (x AS SINGLE, y AS SINGLE, result AS Point2D)"⟩ },
  { category := "console_directives"
    pattern := anyCase "$CONSOLE" ++ blanks ++ one (· == ':') ++ blanks ++ anyCase "OFF"
    severity := .error
    message := "$CONSOLE:OFF is not valid syntax"
    advice := "Use $CONSOLE or $CONSOLE:ONLY instead"
    codeExample := some ⟨"$CONSOLE:OFF", "$CONSOLE"⟩ },
  { category := "multi_statement_lines"
    pattern := conditional ++ blanks1 ++ many1 inLine ++ one (· == ':') ++ blanks ++ conditional
    severity := .warning
    message := "Chained IF statements on one line can cause parsing errors"
    advice := "Split IF statements onto separate lines"
    codeExample := some
      ⟨"IF r < 0 THEN r = 0: IF r > 255 THEN r = 255",
        "IF r < 0 THEN r = 0\nIF r > 255 THEN r = 255"⟩ },
  { category := "array_declarations"
    pattern := anyCase "DIM" ++ blanks1 ++ typedArray ++ blanks ++ one (· == ',') ++ blanks ++
      typedArray
    severity := .error
    message := "Multiple array declarations with dimensions on one line not supported"
    advice := "Declare each array on a separate line"
    codeExample := some
      ⟨"DIM er#(0 TO w) AS DOUBLE, eg#(0 TO w) AS DOUBLE",
        "DIM er(0 TO w) AS DOUBLE\nDIM eg(0 TO w) AS DOUBLE"⟩ },
  { category := "variable_operations"
    pattern := anyCase "DIM" ++ blanks1 ++ word1 ++ blanks1 ++ anyCase "AS" ++ blanks1 ++ word1 ++
      one (· == ':') ++ blanks ++ word1 ++ blanks ++ one (· == '=')
    severity := .warning
    message := "Combining declarations and assignments can cause parsing issues"
    advice := "Separate variable declarations and assignments onto different lines"
    codeExample := some
      ⟨"DIM oldS AS LONG: oldS = _SOURCE", "DIM oldS AS LONG\noldS = _SOURCE"⟩ },
  { category := "missing_functions"
    pattern := notAfter notInName ++ capture 1 (anyCase "_WORD$" ||| anyCase "_TRIM$") ++
      notAhead (one notInName)
    severity := .error
    message := "Function does not exist in QB64PE"
    advice :=
      "Use built-in string functions like INSTR, MID$, LEFT$, RIGHT$, LTRIM$ and RTRIM$ instead"
    codeExample := some
      ⟨"r = VAL(_TRIM$(_WORD$(line$, 1, \" \")))",
        "pos1 = INSTR(line$, \" \")\nIF pos1 > 0 THEN r = VAL(LEFT$(line$, pos1 - 1))"⟩ },
  { category := "legacy_keywords"
    pattern := legacyKeyword
    severity := .error
    message := "Legacy BASIC keyword not supported in QB64PE"
    advice := "Use modern QB64PE alternatives"
    codeExample := some
      ⟨"DEF FN Square(x) = x * x",
        "FUNCTION Square%(x AS INTEGER)\n    Square% = x * x\nEND FUNCTION"⟩ },
  { category := "device_access"
    pattern := deviceAccess
    severity := .error
    message := "Device access keyword not supported in QB64PE"
    advice := "Use modern QB64PE input/output methods"
    codeExample := some
      ⟨"ON PEN GOSUB HandlePen", "Use _MOUSEINPUT and _MOUSEBUTTON for mouse input"⟩ },
  { category := "device_open"
    pattern := anyCase "OPEN" ++ blanks1 ++ one (· == '"') ++ capture 1 (
      anyCase "LPT" ++ many isDecimal ++ one (· == ':') ||| anyCase "CON:" ||| anyCase "KBRD:")
    severity := .error
    message := "Device OPEN statements not supported in QB64PE"
    advice := "Use LPRINT for printer output or modern I/O methods"
    codeExample := some ⟨"OPEN \"LPT1:\" FOR OUTPUT AS #1", "LPRINT \"text to printer\""⟩ },
  { category := "platform_specific"
    pattern := anyKeyword ["_ACCEPTFILEDROP", "_TOTALDROPPEDFILES", "_DROPPEDFILE",
      "_FINISHDROP", "_SCREENPRINT", "_SCREENCLICK", "_WINDOWHANDLE"]
    severity := .warning
    message := "Function may not be available on all platforms (Linux/macOS)"
    advice := "Check platform compatibility or provide alternatives"
    codeExample := some
      ⟨"_SCREENPRINT", "IF INSTR(_OS$, \"[WINDOWS]\") THEN _SCREENPRINT text$"⟩ },
  { category := "console_platform"
    pattern := anyKeyword
      ["_CONSOLETITLE", "_CONSOLECURSOR", "_CONSOLEFONT", "_CONSOLEINPUT", "_CINP"]
    severity := .warning
    message := "Console function may not be available on Linux/macOS"
    advice := "Use standard INPUT/PRINT or check platform compatibility"
    codeExample := some ⟨"_CONSOLETITLE \"My Program\"", "_TITLE \"My Program\""⟩ },
  { category := "program_control"
    pattern := anyKeyword ["CHAIN", "RUN"]
    severity := .warning
    message := "Program control statement may not be available on Linux/macOS"
    advice := "Use SHELL or restructure program logic"
    codeExample := some ⟨"CHAIN \"otherprog.bas\"", "SHELL \"qb64pe otherprog.bas\""⟩ },
  { category := "dynamic_arrays"
    pattern := arrayWithVariableBound
    severity := .warning
    message := "Dynamic array without $DYNAMIC directive may cause issues"
    advice := "Add '$DYNAMIC or use REDIM for arrays sized at runtime"
    codeExample := some
      ⟨"DIM arr(size) AS INTEGER", "'$DYNAMIC\nDIM arr() AS INTEGER\nREDIM arr(size)"⟩ },
  { category := "shared_syntax"
    pattern := textStart ++ blanks ++ anyCase "SHARED" ++ blanks1 ++ word1
    severity := .error
    message := "SHARED keyword must be used with DIM statement"
    advice := "Use 'DIM SHARED variableName AS type' instead of 'SHARED variableName'"
    codeExample := some ⟨"SHARED myVar", "DIM SHARED myVar AS INTEGER"⟩ },
  { category := "boolean_constants"
    pattern := notAfter isWordChar ++ capture 1 (anyCase "TRUE" ||| anyCase "FALSE") ++
      wordEdge ++ notAhead (blanks ++ one (· == '='))
    severity := .warning
    message := "TRUE and FALSE are not built-in constants in QB64PE"
    advice := "Use _TRUE (-1) and _FALSE (0), or define CONST TRUE = -1, FALSE = 0"
    codeExample := some ⟨"IF condition = FALSE THEN", "IF condition = _FALSE THEN"⟩ },
  { category := "unnecessary_declarations"
    pattern := textStart ++ blanks ++ anyCase "DECLARE" ++ blanks1 ++
      capture 1 (anyCase "SUB" ||| anyCase "FUNCTION") ++ blanks1 ++ word1 ++
      notAhead (many inLine ++ anyCase "LIBRARY")
    severity := .info
    message :=
      "DECLARE SUB/FUNCTION is unnecessary in QB64PE - procedures are automatically available"
    advice := "Remove DECLARE statements. DECLARE is only needed for DECLARE LIBRARY"
    codeExample := some
      ⟨"DECLARE SUB MyProcedure", "SUB MyProcedure\n    PRINT \"Hello\"\nEND SUB"⟩ }]

/-- Whether a line, code or comment, asks for arrays that are sized at run time. -/
def asksForDynamicArrays (line : SourceLine) : Bool :=
  !line.isBlank && Text.contains "$DYNAMIC".toList (upper line.text)

/-- The findings of one line, in the order of the rules. -/
def ruleFindings (rules : List DialectRule) (dynamic : Bool) (line : SourceLine) :
    List Finding :=
  if line.isCode then
    rules.filterMap fun rule =>
      if rule.isAboutFixedArrays && dynamic then none else rule.finding? line
  else []

/-- The findings of lines read from top to bottom. `dynamic` says whether an earlier line asked
for dynamic arrays. -/
def dialectFindingsFrom (rules : List DialectRule) (dynamic : Bool) :
    List SourceLine → List Finding
  | [] => []
  | line :: rest =>
      let dynamic := dynamic || asksForDynamicArrays line
      ruleFindings rules dynamic line ++ dialectFindingsFrom rules dynamic rest

def dialectFindings (lines : List SourceLine) : List Finding :=
  dialectFindingsFrom dialectRules false lines

end BasicBench.Check
