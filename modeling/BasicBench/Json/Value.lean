import BasicBench.Number.Binary64

/-!
Values of the JSON data format. The members of an object keep their order. Whole numbers are
kept apart from numbers written with a point or an exponent, because readers of a value may
accept one and refuse the other.
-/

set_option autoImplicit false

namespace BasicBench

/-- A number that is written with a point or an exponent, as a double with a sign. -/
inductive JsonFloat where
  | finite (negative : Bool) (magnitude : Number.Binary64)
  | infinite (negative : Bool)
  | notANumber
  deriving DecidableEq, Repr

inductive Json where
  | null
  | bool (value : Bool)
  | int (value : Int)
  | float (value : JsonFloat)
  | text (value : String)
  | list (items : List Json)
  | object (members : List (String × Json))

namespace Json

/-- The value of an object's member. -/
def member? (name : String) : Json → Option Json
  | object members => members.lookup name
  | _ => none

/-- The value of a member that counts as absent when it is null. -/
def get? (value : Json) (name : String) : Option Json :=
  match value.member? name with
  | some null => none
  | found => found

def text? : Json → Option String
  | text value => some value
  | _ => none

def int? : Json → Option Int
  | int value => some value
  | _ => none

def bool? : Json → Option Bool
  | bool value => some value
  | _ => none

def list? : Json → Option (List Json)
  | list items => some items
  | _ => none

def object? : Json → Option (List (String × Json))
  | object members => some members
  | _ => none

def nat (value : Nat) : Json := int (Int.ofNat value)

def ofOption (value : Option Json) : Json := value.getD null

def texts (values : List String) : Json := list (values.map text)

def ofText? (value : Option String) : Json := ofOption (value.map text)

end Json
end BasicBench
