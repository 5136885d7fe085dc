import BasicBench.Text.CharRanges

/-!
The characters that make up words and numbers. ASCII is decided by comparison; beyond it the
ranges of `CharRanges` decide. A decimal digit is always a word character.
-/

set_option autoImplicit false

namespace BasicBench.Text

def inRanges (ranges : List (Nat × Nat)) (code : Nat) : Bool :=
  ranges.any fun range => range.1 ≤ code && code ≤ range.2

/-- The 52 letters of ASCII. -/
def isLetter (c : Char) : Bool :=
  let n := c.toNat
  (65 ≤ n && n ≤ 90) || (97 ≤ n && n ≤ 122)

/-- The ten digits of ASCII. -/
def isDigit (c : Char) : Bool :=
  let n := c.toNat
  48 ≤ n && n ≤ 57

/-- The decimal digits of every script. -/
def isDecimal (c : Char) : Bool :=
  if c.toNat < 128 then isDigit c else inRanges decimalRanges c.toNat

/-- Letters of every script, and characters with a numeric value. -/
def isAlphanumeric (c : Char) : Bool :=
  if c.toNat < 128 then isLetter c || isDigit c else inRanges alphanumericRanges c.toNat

/-- The characters of words: the alphanumeric ones and the underscore. -/
def isWordChar (c : Char) : Bool := isAlphanumeric c || c == '_'

end BasicBench.Text
