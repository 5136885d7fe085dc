import BasicBench.Keyword.Entry

/-!
Functions of the language: text, arithmetic, files, timing and input devices.
-/

set_option autoImplicit false

namespace BasicBench.Keyword

def functions : List Entry := [
  { name := "LEN", kind := .function, category := "strings",
    description := "Returns the number of characters in a string or bytes in a variable.",
    usage := "length& = LEN(value)",
    parameters := [{ name := "value", type := "any", description := "String or variable to measure." }],
    returns := some "LONG", related := ["LEFT$", "MID$"] },
  { name := "LEFT$", kind := .function, category := "strings",
    description := "Returns the leftmost characters of a string.",
    usage := "part$ = LEFT$(text$, count%)",
    parameters := [{ name := "text$", type := "STRING" }, { name := "count%", type := "INTEGER" }],
    returns := some "STRING", related := ["RIGHT$", "MID$", "INSTR"] },
  { name := "RIGHT$", kind := .function, category := "strings",
    description := "Returns the rightmost characters of a string.",
    usage := "part$ = RIGHT$(text$, count%)", returns := some "STRING",
    related := ["LEFT$", "MID$"] },
  { name := "MID$", kind := .function, category := "strings",
    description := "Returns or replaces a portion of a string.",
    usage := "part$ = MID$(text$, start%[, length%])", returns := some "STRING",
    related := ["LEFT$", "RIGHT$", "INSTR"] },
  { name := "INSTR", kind := .function, category := "strings",
    description := "Returns the position of a substring, or 0 when it is absent.",
    usage := "position% = INSTR([start%,] text$, search$)", returns := some "LONG",
    related := ["MID$", "_INSTRREV"] },
  { name := "LTRIM$", kind := .function, category := "strings",
    description := "Removes leading spaces from a string.", usage := "result$ = LTRIM$(text$)",
    returns := some "STRING", related := ["RTRIM$", "_TRIM$"] },
  { name := "RTRIM$", kind := .function, category := "strings",
    description := "Removes trailing spaces from a string.", usage := "result$ = RTRIM$(text$)",
    returns := some "STRING", related := ["LTRIM$"] },
  { name := "UCASE$", kind := .function, category := "strings",
    description := "Converts a string to uppercase.", usage := "result$ = UCASE$(text$)",
    returns := some "STRING", related := ["LCASE$"] },
  { name := "LCASE$", kind := .function, category := "strings",
    description := "Converts a string to lowercase.", usage := "result$ = LCASE$(text$)",
    returns := some "STRING", related := ["UCASE$"] },
  { name := "CHR$", kind := .function, category := "strings",
    description := "Returns the character for an ASCII code.", usage := "char$ = CHR$(code%)",
    returns := some "STRING", related := ["ASC"] },
  { name := "ASC", kind := .function, category := "strings",
    description := "Returns the ASCII code of a character.",
    usage := "code% = ASC(text$[, position%])", returns := some "INTEGER", related := ["CHR$"] },
  { name := "STR$", kind := .function, category := "strings",
    description := "Converts a number to its string form.", usage := "text$ = STR$(number)",
    returns := some "STRING", related := ["VAL"] },
  { name := "VAL", kind := .function, category := "strings",
    description := "Converts a string to a number.", usage := "number = VAL(text$)",
    returns := some "DOUBLE", related := ["STR$"] },
  { name := "SPACE$", kind := .function, category := "strings",
    description := "Returns a string of spaces.", usage := "text$ = SPACE$(count%)",
    returns := some "STRING", related := ["STRING$"] },
  { name := "STRING$", kind := .function, category := "strings",
    description := "Returns a string of repeated characters.",
    usage := "text$ = STRING$(count%, char)", returns := some "STRING", related := ["SPACE$"] },
  { name := "INKEY$", kind := .function, category := "input",
    description := "Returns the next key in the keyboard buffer without waiting.",
    usage := "key$ = INKEY$", returns := some "STRING", related := ["INPUT", "_KEYHIT", "SLEEP"] },
  { name := "DATE$", kind := .function, category := "time",
    description := "Returns the current date as mm-dd-yyyy.", usage := "today$ = DATE$",
    returns := some "STRING", related := ["TIME$", "TIMER"] },
  { name := "TIME$", kind := .function, category := "time",
    description := "Returns the current time as hh:mm:ss.", usage := "now$ = TIME$",
    returns := some "STRING", related := ["DATE$", "TIMER"] },
  { name := "TIMER", kind := .function, category := "time",
    description := "Returns the seconds elapsed since midnight.", usage := "seconds! = TIMER",
    returns := some "SINGLE", related := ["TIME$", "_DELAY"] },
  { name := "ABS", kind := .function, category := "math",
    description := "Returns the absolute value of a number.", usage := "result = ABS(number)",
    related := ["SGN"] },
  { name := "SGN", kind := .function, category := "math",
    description := "Returns the sign of a number (-1, 0 or 1).",
    usage := "result% = SGN(number)", related := ["ABS"] },
  { name := "INT", kind := .function, category := "math",
    description := "Rounds a number down to the nearest integer.",
    usage := "result = INT(number)", related := ["FIX", "CINT"] },
  { name := "FIX", kind := .function, category := "math",
    description := "Truncates the fractional part of a number.", usage := "result = FIX(number)",
    related := ["INT"] },
  { name := "CINT", kind := .function, category := "math",
    description := "Rounds a number to the nearest INTEGER.", usage := "result% = CINT(number)",
    related := ["INT", "CLNG"] },
  { name := "CLNG", kind := .function, category := "math",
    description := "Rounds a number to the nearest LONG.", usage := "result& = CLNG(number)",
    related := ["CINT"] },
  { name := "SQR", kind := .function, category := "math",
    description := "Returns the square root of a number.", usage := "root = SQR(number)" },
  { name := "SIN", kind := .function, category := "math",
    description := "Returns the sine of an angle in radians.", usage := "value = SIN(radians)",
    related := ["COS", "TAN"] },
  { name := "COS", kind := .function, category := "math",
    description := "Returns the cosine of an angle in radians.", usage := "value = COS(radians)",
    related := ["SIN", "TAN"] },
  { name := "TAN", kind := .function, category := "math",
    description := "Returns the tangent of an angle in radians.",
    usage := "value = TAN(radians)", related := ["SIN", "COS", "ATN"] },
  { name := "ATN", kind := .function, category := "math",
    description := "Returns the arctangent of a number in radians.",
    usage := "radians = ATN(number)", related := ["TAN", "_ATAN2"] },
  { name := "RND", kind := .function, category := "math",
    description := "Returns a random number between 0 and 1.", usage := "value! = RND",
    related := ["RANDOMIZE"] },
  { name := "_ATAN2", kind := .function, category := "math",
    description := "Returns the angle of a vector (y, x) in radians.",
    usage := "radians = _ATAN2(y, x)", related := ["ATN"], dialect := .qb64 },
  { name := "_PI", kind := .function, category := "math",
    description := "Returns pi, optionally multiplied by a value.",
    usage := "value# = _PI[(multiplier)]", dialect := .qb64 },
  { name := "_ROUND", kind := .function, category := "math",
    description := "Rounds a number to the nearest integer.", usage := "result = _ROUND(number)",
    related := ["CINT"], dialect := .qb64 },
  { name := "_INSTRREV", kind := .function, category := "strings",
    description := "Returns the position of the last occurrence of a substring.",
    usage := "position = _INSTRREV([start,] text$, search$)", related := ["INSTR"],
    dialect := .qb64 },
  { name := "OPEN", kind := .statement, category := "file_io",
    description := "Opens a file or device for input, output, append, binary or random access.",
    usage := "OPEN file$ FOR \x7bINPUT | OUTPUT | APPEND | BINARY | RANDOM\x7d AS #fileNumber",
    sample := "f = FREEFILE\nOPEN \"data.txt\" FOR OUTPUT AS #f",
    related := ["CLOSE", "FREEFILE", "PRINT", "INPUT"], tags := ["file"] },
  { name := "CLOSE", kind := .statement, category := "file_io",
    description := "Closes one or all open files.",
    usage := "CLOSE [#fileNumber[, #fileNumber]...]", related := ["OPEN", "FREEFILE"],
    tags := ["file"] },
  { name := "FREEFILE", kind := .function, category := "file_io",
    description := "Returns the next unused file handle number.",
    usage := "fileNumber% = FREEFILE", returns := some "INTEGER", related := ["OPEN", "CLOSE"],
    tags := ["file", "handle"] },
  { name := "EOF", kind := .function, category := "file_io",
    description := "Returns true at the end of an open file.",
    usage := "atEnd% = EOF(fileNumber)", related := ["OPEN", "LOF"] },
  { name := "LOF", kind := .function, category := "file_io",
    description := "Returns the length of an open file in bytes.",
    usage := "bytes& = LOF(fileNumber)", related := ["EOF"] },
  { name := "OUTPUT", kind := .statement, category := "file_io",
    description := "OPEN mode that creates or truncates a file for writing.",
    usage := "OPEN file$ FOR OUTPUT AS #n", related := ["OPEN", "APPEND"] },
  { name := "APPEND", kind := .statement, category := "file_io",
    description := "OPEN mode that writes to the end of a file.",
    usage := "OPEN file$ FOR APPEND AS #n", related := ["OPEN", "OUTPUT"] },
  { name := "BINARY", kind := .statement, category := "file_io",
    description := "OPEN mode for byte level access.", usage := "OPEN file$ FOR BINARY AS #n",
    related := ["OPEN", "GET", "PUT"] },
  { name := "RANDOM", kind := .statement, category := "file_io",
    description := "OPEN mode for fixed length records.",
    usage := "OPEN file$ FOR RANDOM AS #n LEN = size", related := ["OPEN"] },
  { name := "KILL", kind := .statement, category := "file_io", description := "Deletes a file.",
    usage := "KILL file$", related := ["_FILEEXISTS"] },
  { name := "SHELL", kind := .statement, category := "system",
    description := "Runs an operating system command.",
    usage := "SHELL [_HIDE] [_DONTWAIT] command$", related := ["CHAIN", "RUN"] },
  { name := "_FILEEXISTS", kind := .function, category := "file_io",
    description := "Returns true when a file exists.", usage := "exists% = _FILEEXISTS(file$)",
    related := ["_DIREXISTS", "OPEN"], dialect := .qb64 },
  { name := "_DIREXISTS", kind := .function, category := "file_io",
    description := "Returns true when a directory exists.",
    usage := "exists% = _DIREXISTS(path$)", related := ["_FILEEXISTS", "MKDIR"],
    dialect := .qb64 },
  { name := "MKDIR", kind := .statement, category := "file_io",
    description := "Creates a directory.", usage := "MKDIR path$", related := ["_DIREXISTS"] },
  { name := "_DELAY", kind := .statement, category := "timing",
    description := "Pauses the program for a number of seconds without waiting for a key.",
    usage := "_DELAY seconds!", sample := "_DELAY 0.5", related := ["SLEEP", "_LIMIT"],
    dialect := .qb64, tags := ["wait"] },
  { name := "_LIMIT", kind := .statement, category := "timing",
    description := "Limits a loop to a number of iterations per second.",
    usage := "_LIMIT framesPerSecond!", related := ["_DELAY"], dialect := .qb64 },
  { name := "_KEYHIT", kind := .function, category := "input",
    description := "Returns the code of the key being pressed or released.",
    usage := "code& = _KEYHIT", related := ["INKEY$", "_KEYDOWN"], dialect := .qb64 },
  { name := "_KEYDOWN", kind := .function, category := "input",
    description := "Returns true while a key is held down.", usage := "held% = _KEYDOWN(code&)",
    related := ["_KEYHIT"], dialect := .qb64 },
  { name := "_MOUSEINPUT", kind := .function, category := "input",
    description := "Reads the next mouse event, returning true while events remain.",
    usage := "DO WHILE _MOUSEINPUT: LOOP", related := ["_MOUSEX", "_MOUSEY", "_MOUSEBUTTON"],
    dialect := .qb64 },
  { name := "_MOUSEX", kind := .function, category := "input",
    description := "Returns the mouse column or pixel x position.", usage := "x% = _MOUSEX",
    related := ["_MOUSEINPUT", "_MOUSEY"], dialect := .qb64 },
  { name := "_MOUSEY", kind := .function, category := "input",
    description := "Returns the mouse row or pixel y position.", usage := "y% = _MOUSEY",
    related := ["_MOUSEINPUT", "_MOUSEX"], dialect := .qb64 },
  { name := "_MOUSEBUTTON", kind := .function, category := "input",
    description := "Returns true while a mouse button is pressed.",
    usage := "pressed% = _MOUSEBUTTON(button%)", related := ["_MOUSEINPUT"], dialect := .qb64 },
  { name := "_OS$", kind := .function, category := "system",
    description := "Returns the operating system and architecture the program was compiled for.",
    usage := "os$ = _OS$", dialect := .qb64 },
  { name := "_TITLE", kind := .statement, category := "window",
    description := "Sets the program window title.", usage := "_TITLE text$",
    related := ["_CONSOLETITLE"], dialect := .qb64 },
  { name := "_CONSOLE", kind := .statement, category := "console",
    description := "Shows or hides the console window at runtime.",
    usage := "_CONSOLE \x7bON | OFF\x7d", related := ["$CONSOLE", "_DEST"], dialect := .qb64,
    tags := ["console"] },
  { name := "_ECHO", kind := .statement, category := "console",
    description := "Prints text to the console window from a graphics program.",
    usage := "_ECHO text$", related := ["$CONSOLE", "_CONSOLE"], dialect := .qb64pe },
  { name := "_CONSOLETITLE", kind := .statement, category := "console",
    description := "Sets the console window title.", usage := "_CONSOLETITLE text$",
    related := ["_TITLE"], dialect := .qb64, availability := "Windows" },
  { name := "_SCREENPRINT", kind := .statement, category := "window",
    description := "Simulates keyboard input into the active window.",
    usage := "_SCREENPRINT text$", dialect := .qb64, availability := "Windows" },
  { name := "_ACCEPTFILEDROP", kind := .statement, category := "window",
    description := "Enables files to be dropped onto the program window.",
    usage := "_ACCEPTFILEDROP [\x7bON | OFF\x7d]", related := ["_TOTALDROPPEDFILES"],
    dialect := .qb64, availability := "Windows" },
  { name := "_TOTALDROPPEDFILES", kind := .function, category := "window",
    description := "Returns the number of files dropped onto the window.",
    usage := "count& = _TOTALDROPPEDFILES", related := ["_ACCEPTFILEDROP"], dialect := .qb64,
    availability := "Windows" }]

end BasicBench.Keyword
