/-!
White space at the ends of a text. A blank is any of the twenty-nine characters that separate
words; line ends are among them. Trimming looks only at the ends, and every trimmed text is a
contiguous piece of the text it came from.
-/

set_option autoImplicit false

namespace BasicBench

/-- Program text is held as its characters, so that offsets and columns count characters. -/
abbrev Text := List Char

namespace Text

/-- The blanks: the ASCII separators, the no-break and typographic spaces, and the line ends. -/
def isSpace (c : Char) : Bool :=
  let n := c.toNat
  (9 ≤ n && n ≤ 13) || (28 ≤ n && n ≤ 32) || n == 0x85 || n == 0xA0 || n == 0x1680 ||
    (0x2000 ≤ n && n ≤ 0x200A) || n == 0x2028 || n == 0x2029 || n == 0x202F || n == 0x205F ||
    n == 0x3000

/-- The blanks that may surround a number: the four information separators do not count. -/
def isNumberBlank (c : Char) : Bool := isSpace c && !(28 ≤ c.toNat && c.toNat ≤ 31)

def trimLeft (text : Text) : Text := text.dropWhile isSpace

/-- Drops trailing characters that satisfy `drop`: such a character stays only when something
else follows it. -/
def dropEndWhile (drop : Char → Bool) : Text → Text
  | [] => []
  | c :: rest =>
      match dropEndWhile drop rest with
      | [] => if drop c then [] else [c]
      | kept => c :: kept

def trimRight (text : Text) : Text := dropEndWhile isSpace text

def trim (text : Text) : Text := trimRight (trimLeft text)

def trimNumber (text : Text) : Text := dropEndWhile isNumberBlank (text.dropWhile isNumberBlank)

/-- The blanks before the first other character; the whole text when there is none. -/
def indentation (text : Text) : Text := text.takeWhile isSpace

def isBlank (text : Text) : Bool := text.all isSpace

theorem indentation_append_trimLeft (text : Text) :
    indentation text ++ trimLeft text = text :=
  List.takeWhile_append_dropWhile

/-- The maximal runs of other characters. `word` is the run being read, in reverse. -/
def wordsFrom (word : Text) : Text → List Text
  | [] => if word.isEmpty then [] else [word.reverse]
  | c :: rest =>
      if isSpace c then
        if word.isEmpty then wordsFrom [] rest else word.reverse :: wordsFrom [] rest
      else wordsFrom (c :: word) rest

def words (text : Text) : List Text := wordsFrom [] text

def startsWith (head text : Text) : Bool := head.isPrefixOf text

def endsWith (tail text : Text) : Bool := tail.isSuffixOf text

/-- Whether `part` stands somewhere in the text. The empty text stands in every text. -/
def contains (part : Text) : Text → Bool
  | [] => part.isEmpty
  | c :: rest => part.isPrefixOf (c :: rest) || contains part rest

/-- The number of characters before the first place where `part` stands. -/
def offsetOf? (part : Text) : Text → Option Nat
  | [] => if part.isEmpty then some 0 else none
  | c :: rest =>
      if part.isPrefixOf (c :: rest) then some 0
      else (offsetOf? part rest).map (· + 1)

/-- The number of characters before the last character equal to `mark`. -/
def lastOffsetOf? (mark : Char) : Text → Option Nat
  | [] => none
  | c :: rest =>
      match lastOffsetOf? mark rest with
      | some offset => some (offset + 1)
      | none => if c = mark then some 0 else none

/-- The pieces between the characters equal to `mark`; one more than there are marks. -/
def splitAt (mark : Char) : Text → List Text
  | [] => [[]]
  | c :: rest =>
      if c = mark then [] :: splitAt mark rest
      else match splitAt mark rest with
        | [] => [[c]]
        | piece :: pieces => (c :: piece) :: pieces

end Text
end BasicBench
