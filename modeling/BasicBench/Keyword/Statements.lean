import BasicBench.Keyword.Entry

/-!
Statements of the language: console and file access, control flow, declarations and types.
-/

set_option autoImplicit false

namespace BasicBench.Keyword

def statements : List Entry := [
  { name := "PRINT", kind := .statement, category := "console",
    description := "Writes text and numeric values to the current output page or console.",
    usage := "PRINT [expression][\x7b;|,\x7dexpression]...", sample := "PRINT \"Hello, world!\"",
    related := ["PRINT USING", "WRITE", "LOCATE", "CLS"], tags := ["output", "text"] },
  { name := "INPUT", kind := .statement, category := "console",
    description := "Reads a line of keyboard input into one or more variables.",
    usage := "INPUT [\"prompt\"\x7b;|,\x7d] variable[, variable]...",
    sample := "INPUT \"Your name\"; name$", related := ["LINE INPUT", "INKEY$", "_KEYHIT"],
    tags := ["input", "keyboard"] },
  { name := "CLS", kind := .statement, category := "console",
    description := "Clears the current screen page or viewport.",
    usage := "CLS [method][, bgColor]", related := ["SCREEN", "COLOR"] },
  { name := "LOCATE", kind := .statement, category := "console",
    description := "Moves the text cursor to a row and column.",
    usage := "LOCATE [row][, column][, cursor]", related := ["PRINT", "CSRLIN", "POS"] },
  { name := "COLOR", kind := .statement, category := "console",
    description := "Sets the foreground and background colours used for text and graphics.",
    usage := "COLOR [foreground][, background]", related := ["_RGB32", "SCREEN"] },
  { name := "WRITE", kind := .statement, category := "console",
    description := "Writes comma separated values, quoting strings.",
    usage := "WRITE [#fileNumber,] expression[, expression]...", related := ["PRINT", "INPUT"] },
  { name := "SLEEP", kind := .statement, category := "timing",
    description := "Pauses the program for a number of seconds or until a key is pressed.",
    usage := "SLEEP [seconds]", sample := "SLEEP 2", related := ["_DELAY", "_LIMIT", "INKEY$"],
    tags := ["wait", "blocking"] },
  { name := "BEEP", kind := .statement, category := "sound",
    description := "Sounds a short tone through the speaker.", usage := "BEEP",
    related := ["SOUND", "PLAY"] },
  { name := "IF", kind := .statement, category := "control_flow",
    description := "Executes statements depending on a condition.",
    usage := "IF condition THEN statements [ELSE statements]",
    related := ["THEN", "ELSE", "ELSEIF", "END IF", "SELECT CASE"] },
  { name := "THEN", kind := .statement, category := "control_flow",
    description := "Separates the condition of an IF statement from its body.",
    usage := "IF condition THEN", related := ["IF", "ELSE"] },
  { name := "ELSE", kind := .statement, category := "control_flow",
    description := "Introduces the branch executed when an IF condition is false.",
    usage := "ELSE", related := ["IF", "ELSEIF"] },
  { name := "ELSEIF", kind := .statement, category := "control_flow",
    description := "Tests an additional condition inside an IF block.",
    usage := "ELSEIF condition THEN", related := ["IF", "ELSE"] },
  { name := "END", kind := .statement, category := "control_flow",
    description := "Ends the program, or closes an IF, SUB, FUNCTION, SELECT or TYPE block.",
    usage := "END [IF | SUB | FUNCTION | SELECT | TYPE]", related := ["SYSTEM", "STOP"] },
  { name := "SELECT", kind := .statement, category := "control_flow",
    description := "Opens a SELECT CASE block that branches on the value of an expression.",
    usage := "SELECT CASE expression", related := ["CASE", "END"] },
  { name := "CASE", kind := .statement, category := "control_flow",
    description := "Defines one branch of a SELECT CASE block.",
    usage := "CASE value[, value] | CASE IS comparison | CASE ELSE", related := ["SELECT"] },
  { name := "FOR", kind := .statement, category := "loops",
    description := "Starts a counted loop closed by NEXT.",
    usage := "FOR counter = start TO stop [STEP increment]",
    sample := "FOR i = 1 TO 10\n    PRINT i\nNEXT i", related := ["NEXT", "TO", "STEP", "EXIT"],
    tags := ["loop"] },
  { name := "TO", kind := .statement, category := "loops",
    description := "Separates the bounds of a FOR loop, array dimension or CASE range.",
    usage := "start TO stop", related := ["FOR", "DIM"] },
  { name := "STEP", kind := .statement, category := "loops",
    description := "Sets the increment of a FOR loop counter.",
    usage := "FOR counter = start TO stop STEP increment", related := ["FOR"] },
  { name := "NEXT", kind := .statement, category := "loops",
    description := "Closes a FOR loop and advances its counter.", usage := "NEXT [counter]",
    related := ["FOR"], tags := ["loop"] },
  { name := "WHILE", kind := .statement, category := "loops",
    description := "Starts a loop that repeats while a condition is true, closed by WEND.",
    usage := "WHILE condition", related := ["WEND", "DO"], tags := ["loop"] },
  { name := "WEND", kind := .statement, category := "loops",
    description := "Closes a WHILE loop.", usage := "WEND", related := ["WHILE"],
    tags := ["loop"] },
  { name := "DO", kind := .statement, category := "loops",
    description := "Starts a loop closed by LOOP, optionally with a WHILE or UNTIL condition.",
    usage := "DO [\x7bWHILE | UNTIL\x7d condition]",
    related := ["LOOP", "WHILE", "UNTIL", "EXIT"], tags := ["loop"] },
  { name := "LOOP", kind := .statement, category := "loops",
    description := "Closes a DO loop, optionally with a WHILE or UNTIL condition.",
    usage := "LOOP [\x7bWHILE | UNTIL\x7d condition]", related := ["DO"], tags := ["loop"] },
  { name := "UNTIL", kind := .statement, category := "loops",
    description := "Repeats a DO loop until a condition becomes true.",
    usage := "DO UNTIL condition | LOOP UNTIL condition", related := ["DO", "LOOP", "WHILE"] },
  { name := "EXIT", kind := .statement, category := "control_flow",
    description := "Leaves a FOR, DO, WHILE, SUB or FUNCTION block early.",
    usage := "EXIT \x7bFOR | DO | WHILE | SUB | FUNCTION\x7d",
    related := ["FOR", "DO", "SUB", "FUNCTION"] },
  { name := "GOTO", kind := .statement, category := "control_flow",
    description := "Jumps unconditionally to a line label or number.", usage := "GOTO label",
    related := ["GOSUB", "ON"] },
  { name := "RETURN", kind := .statement, category := "control_flow",
    description := "Returns from a GOSUB subroutine.", usage := "RETURN [label]",
    related := ["GOSUB"] },
  { name := "SYSTEM", kind := .statement, category := "control_flow",
    description := "Ends the program immediately and closes its window.",
    usage := "SYSTEM [exitCode]", related := ["END", "_DELAY"], tags := ["exit"] },
  { name := "STOP", kind := .statement, category := "control_flow",
    description := "Halts the program.", usage := "STOP", related := ["END", "SYSTEM"] },
  { name := "ON", kind := .statement, category := "control_flow",
    description := "Introduces event trapping or computed jumps (ON ERROR, ON TIMER, ON n GOTO).",
    usage := "ON \x7bERROR | TIMER(n) | expression\x7d ...",
    related := ["ERROR", "RESUME", "GOTO"] },
  { name := "ERROR", kind := .statement, category := "error_handling",
    description := "Raises a runtime error, or names the error trap in ON ERROR.",
    usage := "ERROR code | ON ERROR GOTO label", related := ["ON", "RESUME", "ERR"] },
  { name := "RESUME", kind := .statement, category := "error_handling",
    description := "Continues execution after an error trap.", usage := "RESUME [NEXT | label]",
    related := ["ON", "ERROR"] },
  { name := "SUB", kind := .statement, category := "procedures",
    description := "Defines a procedure that does not return a value, closed by END SUB.",
    usage := "SUB name [(parameters)]",
    sample := "SUB Greet (who AS STRING)\n    PRINT \"Hi \"; who\nEND SUB",
    related := ["FUNCTION", "CALL", "END"] },
  { name := "FUNCTION", kind := .statement, category := "procedures",
    description := "Defines a procedure returning a value, typed by its name sigil, closed by END FUNCTION.",
    usage := "FUNCTION name[sigil] [(parameters)]",
    sample := "FUNCTION Square% (x AS INTEGER)\n    Square% = x * x\nEND FUNCTION",
    related := ["SUB", "END"] },
  { name := "CALL", kind := .statement, category := "procedures",
    description := "Invokes a SUB procedure.", usage := "CALL name[(arguments)]",
    related := ["SUB"] },
  { name := "DECLARE", kind := .statement, category := "procedures",
    description := "Declares a procedure. Only needed in QB64PE for DECLARE LIBRARY blocks.",
    usage := "DECLARE LIBRARY [\"header\"]", related := ["SUB", "FUNCTION"] },
  { name := "DIM", kind := .statement, category := "variables",
    description := "Declares variables and arrays with an explicit type.",
    usage := "DIM [SHARED] name[(bounds)] AS type", sample := "DIM SHARED score AS LONG",
    related := ["REDIM", "SHARED", "AS", "CONST"] },
  { name := "REDIM", kind := .statement, category := "variables",
    description := "Resizes a dynamic array.",
    usage := "REDIM [_PRESERVE] [SHARED] name(bounds) AS type", related := ["DIM", "$DYNAMIC"] },
  { name := "SHARED", kind := .statement, category := "variables",
    description := "Makes a DIM variable visible to every SUB and FUNCTION.",
    usage := "DIM SHARED name AS type", related := ["DIM"] },
  { name := "AS", kind := .statement, category := "variables",
    description := "Introduces the type of a declaration or the handle number of OPEN.",
    usage := "name AS type", related := ["DIM", "OPEN"] },
  { name := "CONST", kind := .statement, category := "variables",
    description := "Defines a named constant.", usage := "CONST name = value",
    related := ["DIM"] },
  { name := "TYPE", kind := .statement, category := "variables",
    description := "Defines a user-defined record type, closed by END TYPE.",
    usage := "TYPE name", related := ["DIM", "END"] },
  { name := "OPTION", kind := .statement, category := "variables",
    description := "Sets compiler options such as OPTION BASE or OPTION _EXPLICIT.",
    usage := "OPTION \x7bBASE n | _EXPLICIT\x7d", related := ["DIM"] },
  { name := "DEFINT", kind := .statement, category := "variables",
    description := "Sets INTEGER as the default type for variables starting with the given letters.",
    usage := "DEFINT letterRange", related := ["DIM"] },
  { name := "DATA", kind := .statement, category := "variables",
    description := "Stores constant values read by READ.", usage := "DATA value[, value]...",
    related := ["READ", "RESTORE"] },
  { name := "READ", kind := .statement, category := "variables",
    description := "Reads the next values from DATA statements.",
    usage := "READ variable[, variable]...", related := ["DATA", "RESTORE"] },
  { name := "RESTORE", kind := .statement, category := "variables",
    description := "Resets the DATA pointer.", usage := "RESTORE [label]",
    related := ["DATA", "READ"] },
  { name := "RANDOMIZE", kind := .statement, category := "math",
    description := "Seeds the random number generator.", usage := "RANDOMIZE [USING] seed",
    related := ["RND", "TIMER"] },
  { name := "INTEGER", kind := .type, category := "types",
    description := "16-bit signed integer type (sigil %).", usage := "AS INTEGER" },
  { name := "LONG", kind := .type, category := "types",
    description := "32-bit signed integer type (sigil &).", usage := "AS LONG" },
  { name := "SINGLE", kind := .type, category := "types",
    description := "Single precision floating point type (sigil !).", usage := "AS SINGLE" },
  { name := "DOUBLE", kind := .type, category := "types",
    description := "Double precision floating point type (sigil #).", usage := "AS DOUBLE" },
  { name := "STRING", kind := .type, category := "types",
    description := "Variable or fixed length text type (sigil $).",
    usage := "AS STRING [* length]" },
  { name := "_INTEGER64", kind := .type, category := "types",
    description := "64-bit signed integer type (sigil &&).", usage := "AS _INTEGER64",
    dialect := .qb64 },
  { name := "_UNSIGNED", kind := .type, category := "types",
    description := "Makes an integer type unsigned.", usage := "AS _UNSIGNED LONG",
    dialect := .qb64 },
  { name := "_BYTE", kind := .type, category := "types",
    description := "8-bit signed integer type (sigil %%).", usage := "AS _BYTE",
    dialect := .qb64 },
  { name := "_FLOAT", kind := .type, category := "types",
    description := "Extended precision floating point type (sigil ##).", usage := "AS _FLOAT",
    dialect := .qb64 },
  { name := "AND", kind := .operator, category := "logic",
    description := "Bitwise and logical conjunction.", usage := "a AND b",
    related := ["OR", "NOT", "XOR"] },
  { name := "OR", kind := .operator, category := "logic",
    description := "Bitwise and logical disjunction.", usage := "a OR b",
    related := ["AND", "NOT", "XOR"] },
  { name := "NOT", kind := .operator, category := "logic",
    description := "Bitwise and logical negation.", usage := "NOT a", related := ["AND", "OR"] },
  { name := "XOR", kind := .operator, category := "logic",
    description := "Bitwise exclusive or.", usage := "a XOR b", related := ["AND", "OR"] },
  { name := "MOD", kind := .operator, category := "math",
    description := "Integer remainder of a division.", usage := "a MOD b" },
  { name := "USING", kind := .statement, category := "console",
    description := "Formats output of PRINT USING with a template string.",
    usage := "PRINT USING template$; values", related := ["PRINT"] },
  { name := "LPRINT", kind := .statement, category := "console",
    description := "Sends text to the printer.", usage := "LPRINT [expression]",
    related := ["PRINT", "_PRINTIMAGE"] },
  { name := "BASE", kind := .statement, category := "variables",
    description := "Sets the default lower array bound in OPTION BASE.",
    usage := "OPTION BASE \x7b0 | 1\x7d", related := ["OPTION", "DIM"] },
  { name := "LIBRARY", kind := .statement, category := "procedures",
    description := "Declares external C or dynamic library procedures in a DECLARE LIBRARY block.",
    usage := "DECLARE LIBRARY [\"header\"]", related := ["DECLARE"], dialect := .qb64 },
  { name := "_PRESERVE", kind := .statement, category := "variables",
    description := "Keeps existing array contents when resizing with REDIM.",
    usage := "REDIM _PRESERVE name(bounds)", related := ["REDIM"], dialect := .qb64 },
  { name := "IS", kind := .operator, category := "control_flow",
    description := "Comparison form used in CASE IS.", usage := "CASE IS > value",
    related := ["CASE"] },
  { name := "_TRUE", kind := .constant, category := "logic",
    description := "Boolean true constant (-1).", usage := "_TRUE", related := ["_FALSE"],
    dialect := .qb64pe },
  { name := "_FALSE", kind := .constant, category := "logic",
    description := "Boolean false constant (0).", usage := "_FALSE", related := ["_TRUE"],
    dialect := .qb64pe }]

end BasicBench.Keyword
