import BasicBench.Json.Numeral
import BasicBench.Json.Value

/-!
Reading typed values out of JSON. Readers are lenient where no meaning is lost: a yes-or-no
value may be a word, and a whole number may be written as text or with an empty fraction. A
record is read field by field, and every field that cannot be read is reported with its place,
in the order of the fields, so one reading shows all problems.
-/

set_option autoImplicit false

namespace BasicBench.Json

/-- Why a value could not be read. -/
inductive Fault where
  | notYesOrNo | wordNotYesOrNo
  | notInteger | textNotInteger | integerTooLong | fractionalInteger | infiniteInteger
  | notPositive | notText | notList | notAmongChoices | missing | notObject
  deriving DecidableEq, Repr

inductive PathStep where
  | member (name : String)
  | item (index : Nat)
  deriving DecidableEq, Repr

structure Problem where
  path : List PathStep
  fault : Fault
  deriving DecidableEq, Repr

/-- A value that was read, or all that is wrong with it. -/
inductive Reading (Value : Type) where
  | ok (value : Value)
  | wrong (problems : List Problem)

namespace Reading

def fail {Value : Type} (fault : Fault) : Reading Value := wrong [⟨[], fault⟩]

def map {First Second : Type} (make : First → Second) : Reading First → Reading Second
  | ok value => ok (make value)
  | wrong problems => wrong problems

def andThen {First Second : Type} (value : Reading First) (next : First → Reading Second) :
    Reading Second :=
  match value with
  | ok value => next value
  | wrong problems => wrong problems

/-- Reads one more part of a record; the problems of all parts are kept. -/
def part {First Second : Type} (build : Reading (First → Second)) (value : Reading First) :
    Reading Second :=
  match build, value with
  | ok build, ok value => ok (build value)
  | ok _, wrong problems => wrong problems
  | wrong problems, ok _ => wrong problems
  | wrong earlier, wrong later => wrong (earlier ++ later)

theorem part_ok_iff {First Second : Type} (build : Reading (First → Second))
    (value : Reading First) (result : Second) :
    part build value = ok result ↔
      ∃ make given, build = ok make ∧ value = ok given ∧ make given = result := by
  cases build <;> cases value <;> simp [part]

/-- Places the problems of a value below a step. -/
def below {Value : Type} (step : PathStep) : Reading Value → Reading Value
  | ok value => ok value
  | wrong problems =>
      wrong (problems.map fun problem => { problem with path := step :: problem.path })

def itemsFrom {Value : Type} (read : Json → Reading Value) (index : Nat) :
    List Json → Reading (List Value)
  | [] => ok []
  | item :: rest =>
      part (((read item).below (.item index)).map List.cons) (itemsFrom read (index + 1) rest)

end Reading

def readText : Json → Reading String
  | text value => .ok value
  | _ => .fail .notText

def readList {Value : Type} (read : Json → Reading Value) : Json → Reading (List Value)
  | list items => Reading.itemsFrom read 0 items
  | _ => .fail .notList

/-- A value that may be null. -/
def readOptional {Value : Type} (read : Json → Reading Value) : Json → Reading (Option Value)
  | null => .ok none
  | other => (read other).map some

/-- A text that is the label of one of the choices. -/
def readChoice {Choice : Type} (choices : List Choice) (label : Choice → String) :
    Json → Reading Choice
  | text value =>
      match choices.find? (label · == value) with
      | some choice => .ok choice
      | none => .fail .notAmongChoices
  | _ => .fail .notAmongChoices

def noWords : List String := ["0", "off", "f", "false", "n", "no"]

def yesWords : List String := ["1", "on", "t", "true", "y", "yes"]

/-- The value of a whole double; nothing when it has a fraction. -/
def wholeValue? (negative : Bool) (magnitude : Number.Binary64) : Option Int :=
  let (numerator, denominator) := magnitude.toRatio
  if numerator % denominator = 0 then
    let size := Int.ofNat (numerator / denominator)
    some (if negative then -size else size)
  else none

/-- Zero and one stand for no and yes. Any other number is taken for a word that says neither,
when it is short enough to be looked at. -/
def yesOrNoOfInt (short : Bool) (value : Int) : Reading Bool :=
  if value = 0 then .ok false
  else if value = 1 then .ok true
  else .fail (if short then .wordNotYesOrNo else .notYesOrNo)

/-- Whole numbers are looked at up to 64 bits; of the doubles, those between the bounds. -/
def readYesOrNo : Json → Reading Bool
  | bool value => .ok value
  | int value => yesOrNoOfInt (-Int.pow 2 63 ≤ value && value < Int.pow 2 63) value
  | float (.finite negative magnitude) =>
      match wholeValue? negative magnitude with
      | some value => yesOrNoOfInt (value.natAbs < Nat.pow 2 63) value
      | none => .fail .notYesOrNo
  | text value =>
      let word := String.ofList (value.toList.map Char.toLower)
      if noWords.contains word then .ok false
      else if yesWords.contains word then .ok true
      else .fail .wordNotYesOrNo
  | _ => .fail .notYesOrNo

def readInteger : Json → Reading Int
  | int value => .ok value
  | bool value => .ok (if value then 1 else 0)
  | float (.finite negative magnitude) =>
      match wholeValue? negative magnitude with
      | some value => if value.natAbs < Nat.pow 2 63 then .ok value else .fail .integerTooLong
      | none => .fail .fractionalInteger
  | float _ => .fail .infiniteInteger
  | text value =>
      match Numeral.value value.toList with
      | .ok value => .ok value
      | .error .malformed => .fail .textNotInteger
      | .error .tooLong => .fail .integerTooLong
  | _ => .fail .notInteger

def readPositive (value : Json) : Reading Int :=
  (readInteger value).andThen fun value => if 0 < value then .ok value else .fail .notPositive

/-- A field of a record, under the first of its names that is there. -/
def field {Value : Type} (names : List String) (read : Json → Reading Value)
    (absent : Reading Value) (record : Json) : Reading Value :=
  match names.findSome? fun name => (record.member? name).map (name, ·) with
  | some (name, value) => (read value).below (.member name)
  | none => absent

def required {Value : Type} (name : String) (read : Json → Reading Value) (record : Json) :
    Reading Value :=
  field [name] read (.wrong [⟨[.member name], .missing⟩]) record

def defaulted {Value : Type} (name : String) (read : Json → Reading Value) (value : Value)
    (record : Json) : Reading Value :=
  field [name] read (.ok value) record

end BasicBench.Json
