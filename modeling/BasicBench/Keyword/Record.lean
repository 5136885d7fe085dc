import BasicBench.Json.Parts
import BasicBench.Keyword.Catalog

/-!
Keyword entries and catalogues as JSON. Reading an entry reports every field that does not fit;
members that are no fields are passed over. A catalogue is an object with an entry for each
name. The entries are added one after the other, and one that cannot be made of its fields means
that there is no catalogue.
-/

set_option autoImplicit false

namespace BasicBench.Keyword

open Json

namespace Parameter

def read (value : Json) : Reading Parameter :=
  match value with
  | .object _ =>
      Reading.ok Parameter.mk
        |>.part (required "name" readText value)
        |>.part (defaulted "type" readText "any" value)
        |>.part (defaulted "description" readText "" value)
        |>.part (defaulted "optional" readYesOrNo false value)
  | _ => .fail .notObject

def toJson (parameter : Parameter) : Json := .object [
  ("name", .text parameter.name), ("type", .text parameter.type),
  ("description", .text parameter.description), ("optional", .bool parameter.optional)]

end Parameter

namespace Entry

/-- Reads an entry from an object. -/
def read (value : Json) : Reading Entry :=
  Reading.ok Entry.mk
    |>.part (required "name" readText value)
    |>.part (required "type" (readChoice Kind.all Kind.label) value)
    |>.part (required "category" readText value)
    |>.part (required "description" readText value)
    |>.part (defaulted "syntax" readText "" value)
    |>.part (defaulted "parameters" (readList Parameter.read) [] value)
    |>.part (defaulted "returns" (readOptional readText) none value)
    |>.part (defaulted "example" readText "" value)
    |>.part (defaulted "related" (readList readText) [] value)
    |>.part (defaulted "version" (readChoice Dialect.all Dialect.label) .qbasic value)
    |>.part (defaulted "availability" readText "All platforms" value)
    |>.part (defaulted "deprecated" readYesOrNo false value)
    |>.part (defaulted "aliases" (readList readText) [] value)
    |>.part (defaulted "tags" (readList readText) [] value)

/-- The entry of a record with these fields. -/
def make (fields : List (List Code × Document)) : Except RuntimeFault Entry :=
  match read (Document.object fields).shown with
  | .ok entry => .ok entry
  | .wrong problems => .error {
      kind := .validation
      message := s!"an entry does not fit in {problems.length} places"
      problems }

def toJson (entry : Entry) : Json := .object [
  ("name", .text entry.name), ("type", .text entry.kind.label),
  ("category", .text entry.category), ("description", .text entry.description),
  ("syntax", .text entry.usage), ("parameters", .list (entry.parameters.map (·.toJson))),
  ("returns", .ofText? entry.returns), ("example", .text entry.sample),
  ("related", .texts entry.related), ("version", .text entry.dialect.label),
  ("availability", .text entry.availability), ("deprecated", .bool entry.deprecated),
  ("aliases", .texts entry.aliases), ("tags", .texts entry.tags)]

end Entry

/-- How an entry is made of the fields of a record. -/
abbrev EntryMaker := List (List Code × Document) → Except RuntimeFault Entry

namespace Catalog

/-- The fields of a member with the member's name in the place of any `name` among them. -/
def namedFields (name : List Code) (fields : List (List Code × Document)) :
    List (List Code × Document) :=
  (codes "name", .text name) :: fields.filter (·.1 != codes "name")

/-- The entry of a member of a table. -/
def readMember (make : EntryMaker) (name : List Code) (value : Document) :
    Except RuntimeFault Entry := do
  make (namedFields name (← value.items))

/-- Adds the entries of members until one is none. -/
def addMembers (make : EntryMaker) (catalog : Catalog) :
    List (List Code × Document) → Except RuntimeFault Catalog
  | [] => .ok catalog
  | (name, value) :: rest => do
      addMembers make (catalog.add (← readMember make name value)) rest

/-- The catalogue of a table of entries. -/
def ofTable (make : EntryMaker) (table : Document) : Except RuntimeFault Catalog := do
  addMembers make .empty (← table.items)

/-- A catalogue file holds the table of entries itself or has it as its member `keywords`. -/
def ofDocument (make : EntryMaker) (document : Document) : Except RuntimeFault Catalog := do
  ofTable make (← document.get (codes "keywords") document)

/-- Reads a catalogue from an object of entries. -/
def read (value : Json) : Except RuntimeFault Catalog := ofTable Entry.make (.ofJson value)

end Catalog
end BasicBench.Keyword
