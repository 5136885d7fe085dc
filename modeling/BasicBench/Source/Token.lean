import BasicBench.Text.Letter

/-!
The tokens of a piece of program text. This is not a grammar of statements: text that fits no
class becomes single characters, so every text without line feeds outside string literals has
tokens. Blanks between tokens are dropped, and a remark, opened by an apostrophe or the word
`REM`, ends the text.
-/

set_option autoImplicit false

namespace BasicBench

open Text

inductive TokenKind where
  | string | radixNumber | number | name | operator | punctuation | other
  deriving DecidableEq, Repr

structure Token where
  kind : TokenKind
  text : Text
  column : Nat
  deriving DecidableEq, Repr

namespace Token

/-- The characters of names after the first. Names are ASCII. -/
def isNameChar (c : Char) : Bool := isLetter c || isDigit c || c == '_' || c == '.'

def isNameStart (c : Char) : Bool := isLetter c || c == '_'

/-- The marks that may close a name and give its type. -/
def isNameSigil (c : Char) : Bool := "$%&!#~\x60".toList.contains c

def isNumberSigil (c : Char) : Bool := "%&!#~".toList.contains c

def isRadixSigil (c : Char) : Bool := "%&~".toList.contains c

def isHexDigit (c : Char) : Bool :=
  isDigit c || "ABCDEFabcdef".toList.contains c

/-- The leading characters with a property, and the rest. -/
def run (accepts : Char → Bool) (text : Text) : Text × Text :=
  (text.takeWhile accepts, text.dropWhile accepts)

/-- The text after an opening quote, up to and with the closing quote or to the end. -/
def stringTail (text : Text) : Text :=
  match text.dropWhile (· != '"') with
  | [] => text
  | _ :: _ => text.takeWhile (· != '"') ++ ['"']

/-- A name after its optional dollar sign. -/
def name? : Text → Option Text
  | [] => none
  | c :: rest =>
      if isNameStart c then
        let (body, after) := run isNameChar rest
        some (c :: body ++ after.takeWhile isNameSigil)
      else none

/-- An exponent: a letter, an optional sign and at least one digit. -/
def exponent : Text → Text
  | letter :: rest =>
      if "EeDd".toList.contains letter then
        let (sign, digits) := match rest with
          | '+' :: after => (['+'], after)
          | '-' :: after => (['-'], after)
          | _ => ([], rest)
        match digits.takeWhile isDecimal with
        | [] => []
        | shown => letter :: sign ++ shown
      else []
  | [] => []

/-- The digits of a number with the point that may stand among them or before them. -/
def mantissa? : Text → Option Text
  | [] => none
  | c :: rest =>
      if isDecimal c then
        let (whole, after) := run isDecimal rest
        match after with
        | '.' :: fraction => some (c :: whole ++ '.' :: fraction.takeWhile isDecimal)
        | _ => some (c :: whole)
      else if c = '.' then
        match rest.takeWhile isDecimal with
        | [] => none
        | fraction => some ('.' :: fraction)
      else none

def number? (text : Text) : Option Text :=
  (mantissa? text).map fun digits =>
    let power := exponent (text.drop digits.length)
    let after := text.drop (digits.length + power.length)
    digits ++ power ++ after.takeWhile isNumberSigil

/-- A number in hexadecimal, octal or binary notation: the digits of all three are read alike. -/
def radixNumber? : Text → Option Text
  | '&' :: base :: rest =>
      if "HhOoBb".toList.contains base then
        let (digits, after) := run isHexDigit rest
        if digits.isEmpty then none
        else some ('&' :: base :: digits ++ after.takeWhile isRadixSigil)
      else none
  | _ => none

def operator? : Text → Option Text
  | '<' :: '>' :: _ => some ['<', '>']
  | '<' :: '=' :: _ => some ['<', '=']
  | '>' :: '=' :: _ => some ['>', '=']
  | c :: _ => if "=<>+-*/\\^".toList.contains c then some [c] else none
  | [] => none

/-- The class and the text of the token that opens a text with first character `c`. -/
def read (c : Char) (rest : Text) : TokenKind × Text :=
  if c = '"' then (.string, c :: stringTail rest)
  else match radixNumber? (c :: rest) with
  | some text => (.radixNumber, text)
  | none => match number? (c :: rest) with
  | some text => (.number, text)
  | none => match name? (c :: rest) with
  | some text => (.name, text)
  | none => match (if c = '$' then name? rest else none) with
  | some text => (.name, c :: text)
  | none => match operator? (c :: rest) with
  | some text => (.operator, text)
  | none => if "(),;:#".toList.contains c then (.punctuation, [c]) else (.other, [c])

/-- The column after a token: a token with line feeds counts from its last one. -/
def columnAfter (column : Nat) (text : Text) : Nat :=
  if text.any (· == '\n') then (text.reverse.takeWhile (· != '\n')).length + 1
  else column + text.length

def isRemark (kind : TokenKind) (text : Text) : Bool :=
  kind = .name && upper text == "REM".toList

/-- The tokens of a text whose first character stands in `column`; nothing when a line feed
stands outside a string literal before any `REM`. -/
def scan (column : Nat) (text : Text) : Option (List Token) :=
  match text with
  | [] => some []
  | c :: rest =>
      if c = ' ' || c = '\t' then scan (column + 1) rest
      else if c = '\'' then
        scan (column + 1 + (rest.takeWhile (· != '\n')).length) (rest.dropWhile (· != '\n'))
      else if c = '\n' then none
      else
        let (kind, lexeme) := read c rest
        if isRemark kind lexeme then some []
        else (scan (columnAfter column lexeme) (rest.drop (lexeme.length - 1))).map
          (⟨kind, lexeme, column⟩ :: ·)
termination_by text.length
decreasing_by
  · simp
  · have shorter := (List.dropWhile_sublist (l := rest) (· != '\n')).length_le
    simp only [List.length_cons]
    omega
  · simp only [List.length_drop, List.length_cons]
    omega

/-- The tokens of a text that starts in column one. -/
def ofText? (text : Text) : Option (List Token) := scan 1 text

/-- The tokens of one line, which has no line feed. -/
def ofLine (text : Text) : List Token := (ofText? text).getD []

end Token

def Token.isName (token : Token) : Bool := token.kind = .name

end BasicBench
