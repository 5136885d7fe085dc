import BasicBench.Source.Finding
import BasicBench.Source.Line
import BasicBench.Text.Pattern

/-!
Loops and procedures must be closed in the reverse order of their opening. The two families are
checked side by side with a stack each, so a loop and a procedure may overlap. A closer that
does not fit the top of its stack is reported where it stands and leaves the stack as it is;
what is still open at the end is reported where it was opened.
-/

set_option autoImplicit false

namespace BasicBench.Check

open Text

inductive BlockKind where
  | forLoop | whileLoop | doLoop | procedure | function
  deriving DecidableEq, Repr

namespace BlockKind

/-- The keyword that opens the block. -/
def opener : BlockKind → String
  | forLoop => "FOR"
  | whileLoop => "WHILE"
  | doLoop => "DO"
  | procedure => "SUB"
  | function => "FUNCTION"

def closer : BlockKind → String
  | forLoop => "NEXT"
  | whileLoop => "WEND"
  | doLoop => "LOOP"
  | procedure => "END SUB"
  | function => "END FUNCTION"

def isLoop : BlockKind → Bool
  | forLoop | whileLoop | doLoop => true
  | procedure | function => false

/-- The category of a closer of this kind that closes nothing. -/
def strayCategory : BlockKind → String
  | forLoop => "unmatched-next"
  | whileLoop => "unmatched-wend"
  | doLoop => "unmatched-loop"
  | procedure => "unmatched-end-sub"
  | function => "unmatched-end-function"

end BlockKind

/-- What a statement does to the open blocks. Procedures have a name. -/
inductive BlockEvent where
  | opens (kind : BlockKind) (name : Option Text)
  | closes (kind : BlockKind)
  deriving DecidableEq, Repr

namespace BlockEvent

open Pattern

def isNameStart (c : Char) : Bool := isLetterForm c || c == '_'

def isNameRest (c : Char) : Bool := isWordChar c || c == '.'

def procedureName : Pattern := one isNameStart ++ many isNameRest

def openers : List (BlockKind × Pattern) := [
  (.forLoop, anyCase "FOR" ++ one isSpace),
  (.whileLoop, anyCase "WHILE" ++ wordEdge),
  (.doLoop, anyCase "DO" ++ wordEdge),
  (.procedure, anyCase "SUB" ++ blanks1 ++ capture 1 procedureName),
  (.function, anyCase "FUNCTION" ++ blanks1 ++
    capture 1 (procedureName ++ many (among "$%&!#~")))]

def closers : List (BlockKind × Pattern) := [
  (.forLoop, anyCase "NEXT" ++ wordEdge),
  (.whileLoop, anyCase "WEND" ++ wordEdge),
  (.doLoop, anyCase "LOOP" ++ wordEdge),
  (.procedure, anyCase "END" ++ blanks1 ++ anyCase "SUB" ++ wordEdge),
  (.function, anyCase "END" ++ blanks1 ++ anyCase "FUNCTION" ++ wordEdge)]

/-- The event of a statement, told by its leading keyword alone. -/
def ofStatement? (statement : Text) : Option BlockEvent :=
  let opened := openers.findSome? fun (kind, pattern) =>
    (pattern.atStart? statement).map fun found => opens kind (found.group? 1)
  match opened with
  | some event => some event
  | none => (closers.find? fun (_, pattern) => pattern.startsText statement).map (closes ·.1)

end BlockEvent

/-- A block that has been opened. -/
structure Frame where
  kind : BlockKind
  name : Option Text
  line : Nat
  deriving DecidableEq, Repr

def strayCloser (kind : BlockKind) (line : Nat) : Finding :=
  let closer := kind.closer
  let opener := kind.opener
  { line, severity := .error, category := kind.strayCategory,
    message := s!"{closer} without matching {opener}",
    suggestion := some s!"Remove the {closer} or add a matching {opener} before it",
    origin := .blocks }

def unclosedBlock (frame : Frame) : Finding :=
  let opener := frame.kind.opener
  let closer := frame.kind.closer
  let name := String.ofList (frame.name.getD [])
  { line := frame.line, severity := .error,
    category := if frame.kind.isLoop then "unclosed-loop" else "unclosed-sub-function",
    message :=
      if frame.kind.isLoop then s!"Unclosed {opener} loop" else s!"Unclosed {opener} '{name}'",
    suggestion := some s!"Add matching {closer}",
    origin := .blocks }

/-- The open blocks of one family, the innermost first. -/
abbrev BlockStack := List Frame

/-- Closes the innermost block when it is of this kind. -/
def BlockStack.close? (kind : BlockKind) : BlockStack → Option BlockStack
  | [] => none
  | frame :: outer => if frame.kind = kind then some outer else none

/-- The open blocks of both families and the stray closers so far, the last one first. -/
structure OpenBlocks where
  loops : BlockStack := []
  procedures : BlockStack := []
  stray : List Finding := []

namespace OpenBlocks

def stack (blocks : OpenBlocks) (kind : BlockKind) : BlockStack :=
  if kind.isLoop then blocks.loops else blocks.procedures

def setStack (blocks : OpenBlocks) (kind : BlockKind) (stack : BlockStack) : OpenBlocks :=
  if kind.isLoop then { blocks with loops := stack } else { blocks with procedures := stack }

def apply (blocks : OpenBlocks) (line : Nat) : BlockEvent → OpenBlocks
  | .opens kind name => blocks.setStack kind (⟨kind, name, line⟩ :: blocks.stack kind)
  | .closes kind =>
      match (blocks.stack kind).close? kind with
      | some outer => blocks.setStack kind outer
      | none => { blocks with stray := strayCloser kind line :: blocks.stray }

def step (blocks : OpenBlocks) (line : SourceLine) : OpenBlocks :=
  if line.isCode then
    match BlockEvent.ofStatement? line.statement with
    | some event => blocks.apply line.number event
    | none => blocks
  else blocks

/-- What remains to be reported when the text is over: stray closers, then open loops and open
procedures from the outside in. -/
def report (blocks : OpenBlocks) : List Finding :=
  blocks.stray.reverse ++ blocks.loops.reverse.map unclosedBlock ++
    blocks.procedures.reverse.map unclosedBlock

end OpenBlocks

/-- The findings on the block structure of a program, in the order of their lines. -/
def blockFindings (lines : List SourceLine) : List Finding :=
  (lines.foldl OpenBlocks.step {}).report.mergeSort fun a b => a.line ≤ b.line

end BasicBench.Check
