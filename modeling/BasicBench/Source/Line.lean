import BasicBench.Text.Letter
import BasicBench.Text.Line

/-!
The lines of a program, numbered from one. A line is blank, a comment, or code; only code is
checked. The statement of a line is what follows its indentation and its line number.
-/

set_option autoImplicit false

namespace BasicBench

open Text

structure SourceLine where
  number : Nat
  text : Text

namespace SourceLine

def numberFrom (number : Nat) : List Text → List SourceLine
  | [] => []
  | text :: rest => ⟨number, text⟩ :: numberFrom (number + 1) rest

/-- The numbered lines of a program. -/
def ofText (source : Text) : List SourceLine := numberFrom 1 (splitLines source)

theorem number_from_text (number : Nat) (texts : List Text) :
    (numberFrom number texts).map (·.text) = texts := by
  induction texts generalizing number with
  | nil => rfl
  | cons text rest induction => simp [numberFrom, induction]

def trimmed (line : SourceLine) : Text := trim line.text

def isBlank (line : SourceLine) : Bool := line.trimmed.isEmpty

/-- A comment opens with an apostrophe, or is the word `REM` alone or before a space. -/
def isComment (line : SourceLine) : Bool :=
  startsWith ['\''] line.trimmed || upper line.trimmed == "REM".toList ||
    startsWith "REM ".toList (upper line.trimmed)

def isCode (line : SourceLine) : Bool := !line.isBlank && !line.isComment

/-- Drops a leading line number with the blanks and the one colon that may follow it. -/
def dropLabel : Text → Text
  | [] => []
  | c :: rest =>
      if isDecimal c then
        match (rest.dropWhile isDecimal).dropWhile isSpace with
        | ':' :: afterColon => afterColon.dropWhile isSpace
        | afterBlanks => afterBlanks
      else c :: rest

/-- The line without indentation and line number. -/
def statement (line : SourceLine) : Text := dropLabel line.trimmed

end SourceLine
end BasicBench
