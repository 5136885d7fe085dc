import BasicBench.Editor.Word
import BasicBench.Keyword.Search

/-!
What an editor tells about keywords: a page on the one under the cursor, and the ones that begin
like it.
-/

set_option autoImplicit false

namespace BasicBench.Editor

open Keyword

def codeFence (code : String) : String := "\x60\x60\x60qb64\n" ++ code ++ "\n\x60\x60\x60"

/-- The page on a keyword, in Markdown. -/
def page (entry : Entry) : String :=
  let usage := if entry.usage = "" then entry.name else entry.usage
  "\n".intercalate (
    [codeFence usage, "---",
      "**" ++ entry.name ++ "** (" ++ entry.kind.label ++ ", " ++ entry.dialect.label ++ ")", "",
      entry.description] ++
    (if entry.deprecated then ["", "_Deprecated._"] else []) ++
    (if entry.sample = "" then [] else ["", "Example:", codeFence entry.sample]) ++
    (if entry.related.isEmpty then []
      else ["", "See also: " ++ ", ".intercalate entry.related]))

def hover? (catalog : Catalog) (word : Text) : Option String :=
  if word.isEmpty then none else (catalog.find? word).map page

structure Completion where
  label : String
  detail : String
  documentation : String
  deriving DecidableEq, Repr

def Completion.ofEntry (label : String) (entry : Entry) : Completion :=
  ⟨label, entry.kind.label ++ " (" ++ entry.dialect.label ++ ")", entry.description⟩

/-- At most this many completions are offered. -/
def mostCompletions : Nat := 50

def completions (catalog : Catalog) (word : Text) : List Completion :=
  (catalog.complete word mostCompletions).filterMap fun name =>
    (catalog.find? name.toList).map (Completion.ofEntry name)

/-- A full list may have left some out. -/
def isIncomplete (offered : List Completion) : Bool := offered.length ≥ mostCompletions

end BasicBench.Editor
