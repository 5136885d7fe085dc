import BasicBench.Json.Value

/-!
Collections without an order. They are written in ascending order and without repetition, so
that equal collections have equal texts. Numbers are ordered by value, between the infinities,
and texts by their characters; what cannot be compared has no such order.
-/

set_option autoImplicit false

namespace BasicBench.Json

/-- What a value is ordered by. -/
inductive OrderKey where
  | nothing
  | number (numerator : Int) (denominator : Nat)
  | infinite (negative : Bool)
  | notANumber
  | text (value : String)

namespace OrderKey

def ofSigned (negative : Bool) (ratio : Nat × Nat) : OrderKey :=
  number (if negative then -Int.ofNat ratio.1 else Int.ofNat ratio.1) ratio.2

/-- The key of a value that is not made of others. The truth values count as zero and one. -/
def of? : Json → Option OrderKey
  | .null => some nothing
  | .bool value => some (number (if value then 1 else 0) 1)
  | .int value => some (number value 1)
  | .float (.finite negative magnitude) => some (ofSigned negative magnitude.toRatio)
  | .float (.infinite negative) => some (infinite negative)
  | .float .notANumber => some notANumber
  | .text value => some (text value)
  | _ => none

/-- Whether one key is at most another; nothing when they are of different kinds. What is not a
number stands after all numbers. -/
def atMost? : OrderKey → OrderKey → Option Bool
  | nothing, nothing => some true
  | number top bottom, number otherTop otherBottom =>
      some (top * Int.ofNat otherBottom ≤ otherTop * Int.ofNat bottom)
  | infinite negative, infinite otherNegative => some (negative || !otherNegative)
  | infinite negative, number _ _ => some negative
  | number _ _, infinite negative => some (!negative)
  | notANumber, notANumber | number _ _, notANumber | infinite _, notANumber => some true
  | notANumber, number _ _ | notANumber, infinite _ => some false
  | text value, text other => some (value ≤ other)
  | _, _ => none

def atMost (key other : OrderKey) : Bool := (atMost? key other).getD true

/-- Keys are equal when each is at most the other. -/
def same (key other : OrderKey) : Bool :=
  atMost? key other == some true && atMost? other key == some true

end OrderKey

/-- Keeps the first of equal items. -/
def firstOccurrences (items : List (OrderKey × Json)) : List (OrderKey × Json) :=
  items.foldl (fun kept item =>
    if kept.any fun other => other.1.same item.1 then kept else kept ++ [item]) []

def comparable : List (OrderKey × Json) → Bool
  | [] => true
  | item :: rest => rest.all fun other => (item.1.atMost? other.1).isSome

/-- The items in ascending order, each once; nothing when they cannot be compared. -/
def ascending? (items : List Json) : Option Json := do
  let keyed ← items.mapM fun item => (OrderKey.of? item).map (·, item)
  let distinct := firstOccurrences keyed
  if comparable distinct then
    some (.list ((distinct.mergeSort fun item other => item.1.atMost other.1).map (·.2)))
  else none

end BasicBench.Json
