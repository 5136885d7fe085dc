import BasicBench.Text.Space

/-!
Texts as lists of lines. Ten characters end a line, and a carriage return together with the
line feed after it is one end. A text that stops right after a line end has no further, empty
line. Joining puts one line feed between lines, so splitting a joined text gives the lines
back, a last empty line excepted.
-/

set_option autoImplicit false

namespace BasicBench.Text

/-- The characters that end a line. -/
def isLineEnd (c : Char) : Bool :=
  let n := c.toNat
  (10 ≤ n && n ≤ 13) || (28 ≤ n && n ≤ 30) || n == 0x85 || n == 0x2028 || n == 0x2029

theorem isSpace_of_isLineEnd (c : Char) (ends : isLineEnd c = true) : isSpace c = true := by
  simp only [isLineEnd, isSpace, Bool.or_eq_true, Bool.and_eq_true, decide_eq_true_eq,
    beq_iff_eq] at ends ⊢
  omega

/-- The lines of a text, without their ends. -/
def splitLines : Text → List Text
  | [] => []
  | '\r' :: '\n' :: rest => [] :: splitLines rest
  | c :: rest =>
      if isLineEnd c then [] :: splitLines rest
      else match splitLines rest with
        | [] => [[c]]
        | line :: lines => (c :: line) :: lines

/-- The lines of a text, each with its end. Together they are the text. -/
def splitLinesWithEnds : Text → List Text
  | [] => []
  | '\r' :: '\n' :: rest => ['\r', '\n'] :: splitLinesWithEnds rest
  | c :: rest =>
      if isLineEnd c then [c] :: splitLinesWithEnds rest
      else match splitLinesWithEnds rest with
        | [] => [[c]]
        | line :: lines => (c :: line) :: lines

theorem flatten_splitLinesWithEnds (text : Text) : (splitLinesWithEnds text).flatten = text := by
  fun_induction splitLinesWithEnds text with
  | case1 => rfl
  | case2 rest induction => simp [induction]
  | case3 c rest _ _ induction => simp [induction]
  | case4 c rest _ _ empty induction => simp_all
  | case5 c rest _ _ line lines split induction => simp_all

/-- Lines with one line feed between neighbours and, on request, one after the last. -/
def joinLines (lines : List Text) (closing : Bool) : Text :=
  let joined := ['\n'].intercalate lines
  if closing then joined ++ ['\n'] else joined

/-- Whether the last character is a line feed. -/
def endsWithNewline (text : Text) : Bool := text.getLast? == some '\n'

/-- The line, counted from one, on which the character at `offset` stands, when only line
feeds end lines. -/
def lineNumberAt (text : Text) (offset : Nat) : Nat := (text.take offset).count '\n' + 1

end BasicBench.Text
