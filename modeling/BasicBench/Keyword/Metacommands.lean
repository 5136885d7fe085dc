import BasicBench.Keyword.Entry

/-!
Compiler directives, whose names start with a dollar sign.
-/

set_option autoImplicit false

namespace BasicBench.Keyword

def metacommands : List Entry := [
  { name := "$CONSOLE", kind := .metacommand, category := "console",
    description := "Creates a console window for the program. $CONSOLE:ONLY hides the graphics window.",
    usage := "$CONSOLE[:ONLY]",
    sample := "$CONSOLE\n_DEST _CONSOLE\nPRINT \"Visible in the console\"",
    related := ["_CONSOLE", "_DEST", "$SCREENHIDE"], dialect := .qb64,
    tags := ["console", "directive"] },
  { name := "$DYNAMIC", kind := .metacommand, category := "arrays",
    description := "Makes following arrays dynamic so they can be resized with REDIM.",
    usage := "'$DYNAMIC", related := ["$STATIC", "REDIM"] },
  { name := "$STATIC", kind := .metacommand, category := "arrays",
    description := "Makes following arrays static.", usage := "'$STATIC",
    related := ["$DYNAMIC"] },
  { name := "$INCLUDE", kind := .metacommand, category := "modules",
    description := "Inserts the contents of another source file.",
    usage := "'$INCLUDE: 'file.bi'" },
  { name := "$IF", kind := .metacommand, category := "preprocessor",
    description := "Starts a conditional compilation block.", usage := "$IF condition THEN",
    related := ["$ELSE", "$END"], dialect := .qb64 },
  { name := "$ELSE", kind := .metacommand, category := "preprocessor",
    description := "Alternative branch of a $IF block.", usage := "$ELSE", related := ["$IF"],
    dialect := .qb64 },
  { name := "$END", kind := .metacommand, category := "preprocessor",
    description := "Closes a $IF block.", usage := "$END IF", related := ["$IF"],
    dialect := .qb64 },
  { name := "$LET", kind := .metacommand, category := "preprocessor",
    description := "Defines a preprocessor variable.", usage := "$LET name = value",
    related := ["$IF"], dialect := .qb64 },
  { name := "$SCREENHIDE", kind := .metacommand, category := "window",
    description := "Starts the program with its window hidden.", usage := "$SCREENHIDE",
    related := ["$SCREENSHOW", "$CONSOLE"], dialect := .qb64 },
  { name := "$SCREENSHOW", kind := .metacommand, category := "window",
    description := "Shows the program window.", usage := "$SCREENSHOW",
    related := ["$SCREENHIDE"], dialect := .qb64 },
  { name := "$RESIZE", kind := .metacommand, category := "window",
    description := "Controls whether the user can resize the program window.",
    usage := "$RESIZE:\x7bON | OFF | STRETCH | SMOOTH\x7d", dialect := .qb64 },
  { name := "$NOPREFIX", kind := .metacommand, category := "compatibility",
    description := "Allows QB64 keywords to be used without the leading underscore.",
    usage := "$NOPREFIX", dialect := .qb64 },
  { name := "$EXEICON", kind := .metacommand, category := "build",
    description := "Embeds an icon in the compiled executable.", usage := "$EXEICON:'icon.ico'",
    dialect := .qb64, availability := "Windows" },
  { name := "$VERSIONINFO", kind := .metacommand, category := "build",
    description := "Embeds version information in the compiled executable.",
    usage := "$VERSIONINFO:key=value", dialect := .qb64, availability := "Windows" },
  { name := "$CHECKING", kind := .metacommand, category := "build",
    description := "Enables or disables runtime error checking.",
    usage := "$CHECKING:\x7bON | OFF\x7d", dialect := .qb64 },
  { name := "$DEBUG", kind := .metacommand, category := "build",
    description := "Enables the integrated debugger for the program.", usage := "$DEBUG",
    dialect := .qb64pe },
  { name := "$COLOR", kind := .metacommand, category := "graphics",
    description := "Adds named colour constants to the program.",
    usage := "$COLOR:\x7b0 | 32\x7d", related := ["_RGB32", "COLOR"], dialect := .qb64pe },
  { name := "$EMBED", kind := .metacommand, category := "build",
    description := "Embeds a file in the executable for use with _EMBEDDED$.",
    usage := "$EMBED:'file','handle'", dialect := .qb64pe },
  { name := "$UNSTABLE", kind := .metacommand, category := "build",
    description := "Enables unstable language features.", usage := "$UNSTABLE:feature",
    dialect := .qb64pe }]

end BasicBench.Keyword
