import BasicBench.Source.Line
import BasicBench.Text.Pattern

/-!
The names that a program declares. Declaration statements declare every name that is followed
by a type or a value, and the head of a procedure declares its parameters. Names are compared in
upper case.
-/

set_option autoImplicit false

namespace BasicBench.Check

open Text Pattern

/-- A plain name with at most one type mark. -/
def variableName : Pattern :=
  one isLetterForm ++ many (fun c => isLetterForm c || isDigit c || c == '_') ++
    optional (one (among "$%!#&"))

def declarationHead : Pattern :=
  textStart ++ anyOf (["DIM", "REDIM", "CONST", "STATIC", "COMMON"].map anyCase) ++ wordEdge

/-- The declaring keyword and the modifiers after it. -/
def declarationOpening : Pattern :=
  textStart ++ many1 isWordChar ++ blanks1 ++ optional (anyCase "SHARED" ++ blanks1) ++
    optional (anyCase "_PRESERVE" ++ blanks1)

/-- A name before its type or its value, with or without bounds. -/
def declaredName : Pattern :=
  wordEdge ++ capture 1 variableName ++ blanks ++
    optional (one (· == '(') ++ many (· != ')') ++ one (· == ')')) ++ blanks ++
    (anyCase "AS" ++ wordEdge ||| one (· == '='))

def parameterList : Pattern :=
  textStart ++ (anyCase "SUB" ||| anyCase "FUNCTION") ++ blanks1 ++
    many1 (fun c => isWordChar c || c == '.') ++ many (among "$%&!#~") ++ blanks ++
    one (· == '(') ++ capture 1 (many (· != ')')) ++ one (· == ')')

/-- The name of a parameter, after the word that says how it is passed. -/
def parameterName? (parameter : Text) : Option Text :=
  match words parameter with
  | [] => none
  | first :: others =>
      if upper first == "BYVAL".toList || upper first == "BYREF".toList then
        others.head?.map upper
      else some (upper first)

/-- The upper-case names that one statement declares. -/
def declaredBy (statement : Text) : List Text :=
  if declarationHead.startsText statement then
    (declaredName.findAll (declarationOpening.dropStart statement)).map fun found =>
      upper (found.group 1)
  else match parameterList.atStart? statement with
    | some found => (splitAt ',' (found.group 1)).filterMap parameterName?
    | none => []

/-- The upper-case names that a program declares, comments included. -/
def declaredNames (lines : List SourceLine) : List Text :=
  lines.flatMap fun line => declaredBy line.statement

end BasicBench.Check
