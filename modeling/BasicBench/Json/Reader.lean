import BasicBench.Json.Document

/-!
Reading JSON text. The reader accepts the standard grammar and the three words `NaN`,
`Infinity` and `-Infinity`; it accepts nothing before or after the value but blanks. A text that
is not JSON has no value.
-/

set_option autoImplicit false

namespace BasicBench.Json

namespace Reader

def isBlank (c : Char) : Bool := c == ' ' || c == '\t' || c == '\n' || c == '\r'

def skipBlanks (input : List Char) : List Char := input.dropWhile isBlank

def isDigit (c : Char) : Bool := '0' ≤ c && c ≤ '9'

def hexDigit? (c : Char) : Option Nat :=
  if '0' ≤ c && c ≤ '9' then some (c.toNat - 48)
  else if 'a' ≤ c && c ≤ 'f' then some (c.toNat - 87)
  else if 'A' ≤ c && c ≤ 'F' then some (c.toNat - 55)
  else none

def fourHexDigits : List Char → Option (Nat × List Char)
  | a :: b :: c :: d :: rest => do
      let a ← hexDigit? a
      let b ← hexDigit? b
      let c ← hexDigit? c
      let d ← hexDigit? d
      some (a * 4096 + b * 256 + c * 16 + d, rest)
  | _ => none

def isHighSurrogate (code : Nat) : Bool := 0xD800 ≤ code && code ≤ 0xDBFF

def isLowSurrogate (code : Nat) : Bool := 0xDC00 ≤ code && code ≤ 0xDFFF

/-- The half of a character with a code. -/
def halfOf (code : Nat) : Code := .half (Fin.ofNat 2048 (code - 0xD800))

/-- A character written by its code after `\u`. Characters above U+FFFF take two codes; one of
the two without the other is half of a character. -/
def codedChar (input : List Char) : Option (Code × List Char) := do
  let (code, rest) ← fourHexDigits input
  if isHighSurrogate code then
    match rest with
    | '\\' :: 'u' :: second => do
        let (low, afterBoth) ← fourHexDigits second
        if isLowSurrogate low then
          some (.char (Char.ofNat (0x10000 + (code - 0xD800) * 1024 + (low - 0xDC00))), afterBoth)
        else some (halfOf code, rest)
    | _ => some (halfOf code, rest)
  else if isLowSurrogate code then some (halfOf code, rest)
  else some (.char (Char.ofNat code), rest)

def escapedChar : List Char → Option (Code × List Char)
  | '"' :: rest => some (.char '"', rest)
  | '\\' :: rest => some (.char '\\', rest)
  | '/' :: rest => some (.char '/', rest)
  | 'b' :: rest => some (.char '\x08', rest)
  | 'f' :: rest => some (.char '\x0c', rest)
  | 'n' :: rest => some (.char '\n', rest)
  | 'r' :: rest => some (.char '\r', rest)
  | 't' :: rest => some (.char '\t', rest)
  | 'u' :: rest => codedChar rest
  | _ => none

/-- The text up to the closing quote. Control characters must be escaped. -/
def characters : Nat → List Char → Option (List Code × List Char)
  | 0, _ => none
  | _ + 1, [] => none
  | _ + 1, '"' :: rest => some ([], rest)
  | fuel + 1, '\\' :: rest => do
      let (c, rest) ← escapedChar rest
      let (tail, rest) ← characters fuel rest
      some (c :: tail, rest)
  | fuel + 1, c :: rest =>
      if c.toNat < 32 then none
      else do
        let (tail, rest) ← characters fuel rest
        some (.char c :: tail, rest)

/-- A text after its opening quote. -/
def string (input : List Char) : Option (List Code × List Char) :=
  characters (input.length + 1) input

def natOfDigits (digits : List Char) : Nat :=
  digits.foldl (fun sum digit => sum * 10 + (digit.toNat - 48)) 0

/-- A longer whole number is refused. -/
def longestInteger : Nat := 4300

/-- The digits after the point, when a point with digits follows. -/
def fraction : List Char → Option (List Char) × List Char
  | '.' :: rest =>
      match rest.takeWhile isDigit with
      | [] => (none, '.' :: rest)
      | digits => (some digits, rest.dropWhile isDigit)
  | input => (none, input)

def signed : List Char → Bool × List Char
  | '-' :: rest => (true, rest)
  | '+' :: rest => (false, rest)
  | input => (false, input)

/-- The power of ten after an exponent letter, when digits follow it. -/
def power : List Char → Option Int × List Char
  | letter :: rest =>
      if letter == 'e' || letter == 'E' then
        let (negative, after) := signed rest
        match after.takeWhile isDigit with
        | [] => (none, letter :: rest)
        | digits =>
            let size := Int.ofNat (natOfDigits digits)
            (some (if negative then -size else size), after.dropWhile isDigit)
      else (none, letter :: rest)
  | [] => (none, [])

/-- The double nearest to digits times a power of ten. Powers far outside the range of doubles
are decided without computing them. -/
def floatOf (negative : Bool) (digits : List Char) (exponent : Int) : JsonFloat :=
  let significant := digits.dropWhile (· == '0')
  let top := Int.ofNat significant.length + exponent
  if significant.isEmpty || top < -400 then .finite negative ⟨0, -1074⟩
  else if top > 400 then .infinite negative
  else
    let (above, below) := Number.Binary64.scale 10 exponent (natOfDigits significant) 1
    match Number.Binary64.ofRatio? above below with
    | some magnitude => .finite negative magnitude
    | none => .infinite negative

def number (negative : Bool) (input : List Char) : Option (Document × List Char) :=
  let whole := match input with
    | '0' :: rest => (['0'], rest)
    | _ => (input.takeWhile isDigit, input.dropWhile isDigit)
  if whole.1.isEmpty then none
  else
    let (fractionDigits, afterFraction) := fraction whole.2
    let (exponent, rest) := power afterFraction
    match fractionDigits, exponent with
    | none, none =>
        if whole.1.length > longestInteger then none
        else
          let size := Int.ofNat (natOfDigits whole.1)
          some (.int (if negative then -size else size), rest)
    | _, _ =>
        let digits := fractionDigits.getD []
        some (.float (floatOf negative (whole.1 ++ digits)
          (exponent.getD 0 - Int.ofNat digits.length)), rest)

/-- The input after a fixed word. -/
def word? (word : String) (input : List Char) : Option (List Char) :=
  if word.toList.isPrefixOf input then some (input.drop word.length) else none

def words : List (String × Document) := [
  ("null", .null), ("true", .bool true), ("false", .bool false), ("NaN", .float .notANumber),
  ("Infinity", .float (.infinite false)), ("-Infinity", .float (.infinite true))]

/-- A value that is neither text, list nor object. -/
def scalar (input : List Char) : Option (Document × List Char) :=
  match words.findSome? fun (word, value) => (word? word input).map (value, ·) with
  | some found => some found
  | none => match input with
    | '-' :: rest => number true rest
    | _ => number false input

mutual

def valueOf : Nat → List Char → Option (Document × List Char)
  | 0, _ => none
  | _ + 1, '"' :: rest => do
      let (content, rest) ← string rest
      some (.text content, rest)
  | fuel + 1, '[' :: rest =>
      match skipBlanks rest with
      | ']' :: rest => some (.list [], rest)
      | first => do
          let (all, rest) ← itemsOf fuel first
          some (.list all, rest)
  | fuel + 1, '{' :: rest =>
      match skipBlanks rest with
      | '}' :: rest => some (.object [], rest)
      | first => do
          let (all, rest) ← membersOf fuel [] first
          some (.object all, rest)
  | _ + 1, input => scalar input

def itemsOf : Nat → List Char → Option (List Document × List Char)
  | 0, _ => none
  | fuel + 1, input => do
      let (item, rest) ← valueOf fuel input
      match skipBlanks rest with
      | ',' :: rest => do
          let (others, rest) ← itemsOf fuel (skipBlanks rest)
          some (item :: others, rest)
      | ']' :: rest => some ([item], rest)
      | _ => none

def membersOf : Nat → List (List Code × Document) → List Char →
    Option (List (List Code × Document) × List Char)
  | 0, _, _ => none
  | fuel + 1, earlier, '"' :: rest => do
      let (name, rest) ← string rest
      match skipBlanks rest with
      | ':' :: rest => do
          let (content, rest) ← valueOf fuel (skipBlanks rest)
          let members := Document.setMember name content earlier
          match skipBlanks rest with
          | ',' :: rest => membersOf fuel members (skipBlanks rest)
          | '}' :: rest => some (members, rest)
          | _ => none
      | _ => none
  | _ + 1, _, _ => none

end

end Reader

/-- The document in a JSON text. -/
def Document.read? (input : List Char) : Option Document := do
  let (document, rest) ← Reader.valueOf (2 * input.length + 2) (Reader.skipBlanks input)
  if (Reader.skipBlanks rest).isEmpty then some document else none

/-- The value of a JSON text. -/
def read? (input : String) : Option Json := (Document.read? input.toList).map (·.shown)

end BasicBench.Json
