import BasicBench.Keyword.Search
import BasicBench.Source.Finding
import BasicBench.Source.Line
import BasicBench.Source.Token
import BasicBench.Text.Pattern

/-!
Names that look like keywords. A known keyword is reported when it is deprecated or belongs to
the newest dialect, and an unknown one when the catalogue has similar names to offer. Ordinary
variables are left alone: only upper-case names that are long enough, marked by an underscore
or a dollar sign, or on a short list are looked up.
-/

set_option autoImplicit false

namespace BasicBench.Check

open Text Keyword

/-- The type marks that may follow a keyword. -/
def isKeywordSigil (c : Char) : Bool := "$%&!#~".toList.contains c

def isUpperStart (c : Char) : Bool := c == '_' || (65 ≤ c.toNat && c.toNat ≤ 90)

def isUpperRest (c : Char) : Bool := isUpperStart c || isDigit c

/-- An upper-case name with an optional dollar sign before it and type marks after it. -/
def keywordShape : Pattern :=
  .textStart ++ .optional (.one (· == '$')) ++ .one isUpperStart ++ .many isUpperRest ++
    .many isKeywordSigil ++ .textEnd

def withoutSigils (name : Text) : Text := dropEndWhile isKeywordSigil name

def shortKeywords : List Text := ["IF", "DO", "TO", "AS", "OR"].map (·.toList)

/-- Whether a name is worth a look into the catalogue. -/
def looksLikeKeyword (name : Text) : Bool :=
  if name != upper name || !keywordShape.startsText name then false
  else match name with
    | '_' :: _ | '$' :: _ => (withoutSigils name).length > 1
    | _ => (withoutSigils name).length ≥ 3 || shortKeywords.contains (withoutSigils name)

/-- The entry of a name or, when the catalogue has none, of the name without its type marks. -/
def resolve? (catalog : Catalog) (name : Text) : Option Entry :=
  match catalog.find? name with
  | some entry => some entry
  | none => if withoutSigils name = name then none else catalog.find? (withoutSigils name)

def keywordFinding (line : SourceLine) (token : Token) (severity : Severity)
    (category message : String) (entry : Option Entry) (alternatives : List String) : Finding :=
  let name := String.ofList token.text
  { line := line.number, column := token.column, severity, category, message,
    suggestion := if alternatives.isEmpty then none else some s!"Check the spelling of {name}",
    origin := .keywords, keyword := some name, entry, alternatives }

/-- What there is to say about a keyword that the catalogue knows. -/
def knownKeywordFindings (line : SourceLine) (token : Token) (entry : Entry) : List Finding :=
  let name := String.ofList token.text
  (if entry.deprecated then
    [keywordFinding line token .warning "deprecated-keyword"
      s!"Keyword \"{name}\" is deprecated." (some entry) []]
  else []) ++
  (if entry.dialect = .qb64pe && token.text.head? != some '_' then
    [keywordFinding line token .info "version-specific"
      s!"Keyword \"{name}\" is QB64PE specific and may not work in older BASIC versions."
      (some entry) []]
  else [])

/-- A keyword is offered at most this many other names. -/
def mostAlternatives : Nat := 5

def unknownKeywordFindings (catalog : Catalog) (line : SourceLine) (token : Token) :
    List Finding :=
  let name := String.ofList token.text
  let alternatives := (catalog.alternatives token.text).take mostAlternatives
  if alternatives.isEmpty then []
  else
    let offered := ", ".intercalate alternatives
    [keywordFinding line token .warning "unknown-keyword"
      s!"Unknown keyword \"{name}\". Did you mean one of: {offered}?" none alternatives]

def tokenFindings (catalog : Catalog) (line : SourceLine) (token : Token) : List Finding :=
  if looksLikeKeyword token.text then
    match resolve? catalog token.text with
    | some entry => knownKeywordFindings line token entry
    | none => unknownKeywordFindings catalog line token
  else []

/-- The names of a line that may be keywords: of a directive only its first name. -/
def keywordTokens (line : SourceLine) : List Token :=
  let names := (Token.ofLine line.text).filter (·.isName)
  if startsWith ['$'] line.trimmed then names.take 1 else names

/-- The keyword findings of a program. An empty catalogue knows too little to report anything. -/
def keywordFindings (catalog : Catalog) (lines : List SourceLine) : List Finding :=
  if catalog.isEmpty then []
  else lines.flatMap fun line =>
    if line.isCode then (keywordTokens line).flatMap (tokenFindings catalog line) else []

end BasicBench.Check
