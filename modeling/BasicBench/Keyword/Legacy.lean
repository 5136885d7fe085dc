import BasicBench.Keyword.Entry

/-!
Keywords of older dialects. Most are deprecated, and many do nothing any more.
-/

set_option autoImplicit false

namespace BasicBench.Keyword

def legacy : List Entry := [
  { name := "GOSUB", kind := .legacy, category := "control_flow",
    description := "Jumps to a subroutine label and returns with RETURN. Prefer SUB procedures.",
    usage := "GOSUB label", related := ["RETURN", "SUB"], deprecated := true },
  { name := "DEF", kind := .legacy, category := "procedures",
    description := "Defines a single-line DEF FN function. Use FUNCTION instead.",
    usage := "DEF FNname(parameters) = expression", sample := "DEF FN Square(x) = x * x",
    related := ["FUNCTION"], deprecated := true },
  { name := "LET", kind := .legacy, category := "variables",
    description := "Optional assignment keyword.", usage := "[LET] variable = expression",
    deprecated := true },
  { name := "REM", kind := .statement, category := "comments",
    description := "Starts a comment.", usage := "REM comment" },
  { name := "TRON", kind := .legacy, category := "debugging",
    description := "Enabled line tracing in QBasic. Not supported in QB64PE.", usage := "TRON",
    related := ["TROFF", "$DEBUG"], deprecated := true, availability := "None" },
  { name := "TROFF", kind := .legacy, category := "debugging",
    description := "Disabled line tracing in QBasic. Not supported in QB64PE.", usage := "TROFF",
    related := ["TRON"], deprecated := true, availability := "None" },
  { name := "SETMEM", kind := .legacy, category := "memory",
    description := "Changed the far heap size in QBasic. Not supported in QB64PE.",
    usage := "SETMEM(bytes)", deprecated := true, availability := "None" },
  { name := "FRE", kind := .legacy, category := "memory",
    description := "Returned free memory in QBasic. Not supported in QB64PE.",
    usage := "FRE(value)", deprecated := true, availability := "None" },
  { name := "ERDEV", kind := .legacy, category := "devices",
    description := "Returned device error codes. Not supported in QB64PE.", usage := "ERDEV",
    deprecated := true, availability := "None" },
  { name := "IOCTL", kind := .legacy, category := "devices",
    description := "Sent control strings to device drivers. Not supported in QB64PE.",
    usage := "IOCTL #n, string$", deprecated := true, availability := "None" },
  { name := "FILEATTR", kind := .legacy, category := "file_io",
    description := "Returned information about an open file. Not supported in QB64PE.",
    usage := "FILEATTR(n, attribute)", deprecated := true, availability := "None" },
  { name := "CHAIN", kind := .legacy, category := "system",
    description := "Transfers control to another program. Limited on Linux and macOS.",
    usage := "CHAIN file$", related := ["RUN", "SHELL"], availability := "Windows" },
  { name := "RUN", kind := .statement, category := "system",
    description := "Restarts the program or runs another one. Limited on Linux and macOS.",
    usage := "RUN [label | file$]", related := ["CHAIN", "SHELL"], availability := "Windows" },
  { name := "PEN", kind := .legacy, category := "devices",
    description := "Light pen support. Not supported in QB64PE.",
    usage := "PEN \x7bON | OFF | STOP\x7d", related := ["_MOUSEINPUT"], deprecated := true,
    availability := "None" }]

end BasicBench.Keyword
