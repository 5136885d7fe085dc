import BasicBench.Text.Space
import BasicBench.Text.WordChar

/-!
Whole numbers as people write them: digits of any script, an optional sign, blanks around the
number and single underscores between digits. Numbers of more than 4300 digits are refused, and
an information separator is not a blank here.
-/

set_option autoImplicit false

namespace BasicBench.Number

open Text

/-- The value of a decimal digit: the digits of every script stand in ascending order. -/
def digitValue? (c : Char) : Option Nat :=
  if isDigit c then some (c.toNat - 48)
  else (decimalRanges.find? fun range => range.1 ≤ c.toNat && c.toNat ≤ range.2).map
    fun range => (c.toNat - range.1) % 10

/-- The digits of a text; `afterDigit` tells whether an underscore may come next. -/
def digitValues? (afterDigit : Bool) : Text → Option (List Nat)
  | [] => if afterDigit then some [] else none
  | c :: rest =>
      if c = '_' then if afterDigit then digitValues? false rest else none
      else (digitValue? c).bind fun digit => (digitValues? true rest).map (digit :: ·)

def mostDigits : Nat := 4300

def natural? (text : Text) : Option Nat :=
  (digitValues? false text).bind fun digits =>
    if digits.length > mostDigits then none
    else some (digits.foldl (fun value digit => value * 10 + digit) 0)

def integer? (text : Text) : Option Int :=
  match trimNumber text with
  | '-' :: digits => (natural? digits).map fun value => -Int.ofNat value
  | '+' :: digits => (natural? digits).map Int.ofNat
  | digits => (natural? digits).map Int.ofNat

end BasicBench.Number
