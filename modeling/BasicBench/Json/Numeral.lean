import BasicBench.Text.Space
import BasicBench.Text.WordChar

/-!
Whole numbers written as text. A plain numeral has an optional minus sign and ASCII digits
without a zero in front. Any other text is simplified once, by dropping what does not change the
value (blanks around it, a plus sign, zeros in front, a fraction of zeros, underscores between
digits), and has to be a plain numeral then. Numerals of more than 4300 digits are refused.
-/

set_option autoImplicit false

namespace BasicBench.Json.Numeral

open Text

/-- Why a text is not read as a whole number. -/
inductive Fault where
  | malformed | tooLong
  deriving DecidableEq, Repr

/-- Numerals have at most this many digits. -/
def mostDigits : Nat := 4300

/-- The value of ASCII digits. -/
def valueOf (digits : Text) : Nat :=
  digits.foldl (fun value digit => value * 10 + (digit.toNat - 48)) 0

/-- The value of a numeral without a sign. Too many digits are refused before what follows
them is looked at. -/
def unsigned (text : Text) : Except Fault Nat :=
  match text with
  | ['0'] => .ok 0
  | '0' :: _ => .error .malformed
  | _ =>
      let digits := text.takeWhile isDigit
      if digits.length > mostDigits then .error .tooLong
      else if digits.isEmpty || digits.length < text.length then .error .malformed
      else .ok (valueOf digits)

/-- The value of a plain numeral. -/
def plain : Text → Except Fault Int
  | '-' :: rest => (unsigned rest).map fun size => -Int.ofNat size
  | digits => (unsigned digits).map Int.ofNat

/-- Drops the zeros that follow the zero `last`, and underscores among them. The last zero stays
before a point and at the end. -/
def afterZeros (last : Char) : Text → Option Text
  | [] => some [last]
  | c :: rest =>
      if c = '0' || c = '_' then afterZeros c rest
      else if isDigit c || c = '-' then some (c :: rest)
      else if c = '.' then some (last :: c :: rest)
      else none

/-- Drops zeros in front; nothing when no digit comes first. A sign may stand after them. -/
def withoutZeros : Text → Option Text
  | [] => none
  | '0' :: rest => afterZeros '0' rest
  | c :: rest => if isDigit c || c = '-' then some (c :: rest) else none

/-- Drops a point that zeros and nothing else follow. -/
def withoutFraction (text : Text) : Text :=
  match text.dropWhile (· != '.') with
  | '.' :: zero :: zeros =>
      if (zero :: zeros).all (· == '0') then text.takeWhile (· != '.') else text
  | _ => text

/-- Drops single underscores between other characters; a text with any other underscore is left
as it is. -/
def withoutUnderscores (text : Text) : Text :=
  if startsWith ['_'] text || endsWith ['_'] text || contains ['_', '_'] text then text
  else text.filter (· != '_')

def simplifyUnsigned (text : Text) : Option Text :=
  (withoutZeros text).map (withoutUnderscores ∘ withoutFraction)

/-- Drops what does not change the value; nothing when the text cannot be a numeral. -/
def simplify? (text : Text) : Option Text :=
  match trimNumber text with
  | '+' :: '-' :: _ => none
  | '+' :: rest => simplifyUnsigned rest
  | '-' :: rest => (simplifyUnsigned rest).map ('-' :: ·)
  | rest => simplifyUnsigned rest

/-- The value of a whole number written as text. -/
def value (text : Text) : Except Fault Int :=
  match plain text with
  | .error .malformed =>
      match simplify? text with
      | some simple => plain simple
      | none => .error .malformed
  | result => result

end BasicBench.Json.Numeral
