import BasicBench.Keyword.Entry
import BasicBench.Text.Letter

/-!
A catalogue of keywords. Names and aliases are told apart without regard to case: both tables
are kept under upper-case keys and in the order in which their keys first came. Adding an entry
under a key that is taken replaces the entry and keeps its place.
-/

set_option autoImplicit false

namespace BasicBench.Keyword

open Text

/-- Sets the value of a key: in place when the key is there, at the end when it is not. -/
def put {Value : Type} (key : Text) (value : Value) :
    List (Text × Value) → List (Text × Value)
  | [] => [(key, value)]
  | (other, old) :: rest =>
      if other = key then (key, value) :: rest else (other, old) :: put key value rest

theorem lookup_put {Value : Type} (key wanted : Text) (value : Value)
    (table : List (Text × Value)) :
    (put key value table).lookup wanted =
      if wanted = key then some value else table.lookup wanted := by
  induction table with
  | nil =>
      by_cases same : wanted = key
      · simp [put, same]
      · have differs : (wanted == key) = false := by simpa using same
        simp [put, List.lookup_cons, same, differs]
  | cons head rest induction =>
      obtain ⟨other, old⟩ := head
      by_cases found : other = key
      · subst found
        by_cases same : wanted = other
        · simp [put, same]
        · have differs : (wanted == other) = false := by simpa using same
          simp [put, List.lookup_cons, same, differs]
      · by_cases same : wanted = other
        · subst same
          simp [put, found]
        · have differs : (wanted == other) = false := by simpa using same
          simp [put, List.lookup_cons, found, differs, induction]

theorem keys_put {Value : Type} (key : Text) (value : Value) (table : List (Text × Value)) :
    (put key value table).map (·.1) =
      if key ∈ table.map (·.1) then table.map (·.1) else table.map (·.1) ++ [key] := by
  induction table with
  | nil => rfl
  | cons head rest induction =>
      obtain ⟨other, old⟩ := head
      by_cases found : other = key
      · simp [put, found]
      · have differs : ¬ key = other := fun same => found same.symm
        simp only [put, found, if_false, List.map_cons, induction, List.mem_cons, differs,
          false_or]
        split <;> rfl

/-- Entries under their upper-case names, and upper-case aliases with the names they stand for. -/
structure Catalog where
  entries : List (Text × Entry) := []
  aliases : List (Text × Text) := []

namespace Catalog

def empty : Catalog := {}

/-- The key of a name: its upper-case form. -/
def keyOf (name : String) : Text := upper name.toList

def add (catalog : Catalog) (entry : Entry) : Catalog where
  entries := put (keyOf entry.name) entry catalog.entries
  aliases := entry.aliases.foldl
    (fun table other => put (keyOf other) (keyOf entry.name) table) catalog.aliases

def ofEntries (entries : List Entry) : Catalog := entries.foldl add empty

def size (catalog : Catalog) : Nat := catalog.entries.length

def isEmpty (catalog : Catalog) : Bool := catalog.entries.isEmpty

/-- The entry of a name or, when no entry has that name, of an alias. -/
def find? (catalog : Catalog) (name : Text) : Option Entry :=
  match catalog.entries.lookup (upper name) with
  | some entry => some entry
  | none => (catalog.aliases.lookup (upper name)).bind fun key => catalog.entries.lookup key

def has (catalog : Catalog) (name : Text) : Bool := (catalog.find? name).isSome

def toList (catalog : Catalog) : List Entry := catalog.entries.map (·.2)

end Catalog
end BasicBench.Keyword
