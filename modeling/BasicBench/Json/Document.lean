import BasicBench.Json.Value

/-!
JSON documents as they are written. Their texts can name half of a character, which is no text
elsewhere, so a text of a document is a sequence of codes. Where a document shows as a value, each
half is a character of its own from the end of the codes for private use.
-/

set_option autoImplicit false

namespace BasicBench.Json

/-- What a text of a document is made of: whole characters, and halves that stand alone. -/
inductive Code where
  | char (value : Char)
  | half (offset : Fin 2048)
  deriving DecidableEq, Repr

/-- The codes of a text. -/
def codes (text : String) : List Code := text.toList.map .char

namespace Code

/-- The first of the characters that halves show as. -/
def firstHalf : Nat := 0x10F800

def shown : Code → Char
  | char value => value
  | half offset => Char.ofNat (firstHalf + offset)

/-- Codes as a text. -/
def text (codes : List Code) : String := String.ofList (codes.map shown)

end Code

inductive Document where
  | null
  | bool (value : Bool)
  | int (value : Int)
  | float (value : JsonFloat)
  | text (value : List Code)
  | list (items : List Document)
  | object (members : List (List Code × Document))

namespace Document

/-- The members of an object when a name that comes again replaces the value and keeps its
first place. -/
def setMember (name : List Code) (value : Document) :
    List (List Code × Document) → List (List Code × Document)
  | [] => [(name, value)]
  | (other, old) :: rest =>
      if other = name then (name, value) :: rest else (other, old) :: setMember name value rest

mutual

def shown : Document → Json
  | null => .null
  | bool value => .bool value
  | int value => .int value
  | float value => .float value
  | text value => .text (Code.text value)
  | list items => .list (shownItems items)
  | object members => .object (shownMembers members)

def shownItems : List Document → List Json
  | [] => []
  | item :: rest => shown item :: shownItems rest

def shownMembers : List (List Code × Document) → List (String × Json)
  | [] => []
  | (name, content) :: rest => (Code.text name, shown content) :: shownMembers rest

end

mutual

/-- The document of a value. -/
def ofJson : Json → Document
  | .null => null
  | .bool value => bool value
  | .int value => int value
  | .float value => float value
  | .text value => text (codes value)
  | .list items => list (ofItems items)
  | .object members => object (ofMembers members)

def ofItems : List Json → List Document
  | [] => []
  | item :: rest => ofJson item :: ofItems rest

def ofMembers : List (String × Json) → List (List Code × Document)
  | [] => []
  | (name, content) :: rest => (codes name, ofJson content) :: ofMembers rest

end

end Document
end BasicBench.Json
