import BasicBench.Editor.Diagnostic
import BasicBench.Text.Line
import BasicBench.Text.WordChar

/-!
The word under the cursor: the longest run of word characters that touches the cursor. A line
that does not exist has no word. The search steps from the cursor to both sides and looks at one
character at a time; a cursor behind the end of its line has no character in front of it.
-/

set_option autoImplicit false

namespace BasicBench.Editor

open Text

/-- The characters of keywords: those of words, and the dollar sign. -/
def isKeywordChar (c : Char) : Bool := isAlphanumeric c || c == '_' || c == '$'

/-- Where the word at an offset begins: one steps to the left while the character in front belongs
to a word. Nothing when the line has no character there. -/
def wordStart? (text : Text) : Nat → Option Nat
  | 0 => some 0
  | offset + 1 => do
      let c ← text[offset]?
      if isKeywordChar c then wordStart? text offset else some (offset + 1)

/-- Where the word at an offset ends. -/
def wordEnd (text : Text) (offset : Nat) : Nat :=
  offset + ((text.drop offset).takeWhile isKeywordChar).length

/-- The characters of a line from one offset up to another. -/
def charsBetween (text : Text) (start stop : Nat) : Text := (text.take stop).drop start

/-- The word at a place of a document whose lines have their ends; nothing when the search for it
leaves the line. -/
def wordAt? (document : Text) (place : Position) : Option Text :=
  match (splitLinesWithEnds document)[place.line]? with
  | none => some []
  | some text => do
      let start ← wordStart? text place.character
      some (charsBetween text start (wordEnd text place.character))

end BasicBench.Editor
