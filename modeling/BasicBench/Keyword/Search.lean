import BasicBench.Keyword.Catalog
import BasicBench.Keyword.Distance

/-!
Finding keywords by approximate name. Each entry is scored against the query by the first rule
of a fixed list that applies, and the matches are ranked by relevance and then by name, so the
ranking does not depend on the order of the catalogue.
-/

set_option autoImplicit false

namespace BasicBench.Keyword

open Text

/-- How an entry came to match a query. -/
inductive MatchKind where
  | exact | opening | fuzzy | contains | related
  deriving DecidableEq, Repr

def MatchKind.label : MatchKind → String
  | .exact => "exact"
  | .opening => "prefix"
  | .fuzzy => "fuzzy"
  | .contains => "contains"
  | .related => "related"

structure Match where
  entry : Entry
  relevance : Nat
  kind : MatchKind

def dropUnderscore : Text → Text
  | '_' :: rest => rest
  | text => text

/-- The first `count` elements; a negative count leaves out that many at the end. -/
def cut {Item : Type} (count : Int) (items : List Item) : List Item :=
  match count with
  | .ofNat count => items.take count
  | .negSucc left => items.take (items.length - (left + 1))

/-- A query in the forms that the rules compare. -/
structure Query where
  lowered : Text
  /-- The parts between underscores and spaces, without the leading underscore; only parts of
  three characters or more tell keywords apart. -/
  parts : List Text

def Query.ofText (query : Text) : Query where
  lowered := lower query
  parts := ((splitAt '_' ((dropUnderscore query).map fun c => if c = ' ' then '_' else c)).filter
    (fun part => part.length > 2)).map lower

/-- The number of edits that still counts as a misspelling; short queries allow none. -/
def Query.tolerance? (query : Query) : Option Nat :=
  if query.lowered.length > 10 then some 3
  else if query.lowered.length > 3 then some 2
  else none

def Query.partsIn (query : Query) (name : Text) : List Text :=
  query.parts.filter fun part => Text.contains part name

/-- A name within the tolerated number of edits; each edit costs ten points. -/
def Query.misspelling? (query : Query) (name : Text) : Option Nat :=
  query.tolerance?.bind fun tolerance =>
    let edits := distance name query.lowered
    if edits ≤ tolerance then some (75 - edits * 10) else none

/-- Names that hold all or some of the parts of the query. -/
def Query.shared? (query : Query) (name : Text) : Option Nat :=
  let shared := query.partsIn name
  if query.parts.isEmpty || shared.isEmpty then none
  else if shared.length = query.parts.length then some 70
  else some (50 + shared.length * 10)

/-- The relevance of an entry whose lower-case key is `name`, by the first rule that applies. -/
def Query.score? (query : Query) (name : Text) (entry : Entry) : Option (Nat × MatchKind) :=
  if name = query.lowered then some (100, .exact)
  else if dropUnderscore name = dropUnderscore query.lowered then some (95, .exact)
  else if startsWith query.lowered name then some (80, .opening)
  else match query.misspelling? name with
  | some relevance => some (relevance, .fuzzy)
  | none => match query.shared? name with
  | some relevance => some (relevance, .contains)
  | none =>
    if Text.contains query.lowered name then some (60, .contains)
    else if Text.contains query.lowered (lower entry.description.toList) then some (40, .contains)
    else if entry.related.any fun other => Text.contains query.lowered (lower other.toList) then
      some (20, .related)
    else none

/-- Higher relevance comes first, and equal relevance is ordered by name. -/
def Match.before (a b : Match) : Bool :=
  a.relevance > b.relevance || (a.relevance == b.relevance && a.entry.name ≤ b.entry.name)

def byName (entries : List Entry) : List Entry :=
  entries.mergeSort fun a b => a.name ≤ b.name

namespace Catalog

def scored (catalog : Catalog) (query : Query) : List Match :=
  catalog.entries.filterMap fun (key, entry) =>
    (query.score? (lower key) entry).map fun (relevance, kind) => ⟨entry, relevance, kind⟩

/-- The best matches of a query; the empty query matches nothing. -/
def search (catalog : Catalog) (query : Text) (limit : Int) : List Match :=
  if query.isEmpty then []
  else cut limit ((catalog.scored (.ofText query)).mergeSort Match.before)

/-- The names that begin like `opening`, in ascending order. -/
def complete (catalog : Catalog) (opening : Text) (limit : Int) : List String :=
  cut limit (((catalog.entries.filter fun (key, _) => startsWith (upper opening) key).map
    (·.2.name)).mergeSort fun a b => a ≤ b)

/-- The best five names for a misspelled keyword, itself excluded. -/
def alternatives (catalog : Catalog) (name : Text) : List String :=
  ((catalog.search name 5).map (·.entry.name)).filter fun other => keyOf other != upper name

def ofKind (catalog : Catalog) (kind : String) : List Entry :=
  byName (catalog.toList.filter fun entry => entry.kind.label == kind)

def ofDialect (catalog : Catalog) (dialect : String) : List Entry :=
  byName (catalog.toList.filter fun entry => entry.dialect.label == dialect)

def deprecated (catalog : Catalog) : List Entry :=
  byName (catalog.toList.filter (·.deprecated))

end Catalog
end BasicBench.Keyword
