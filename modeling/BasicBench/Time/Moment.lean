/-!
Moments of the calendar, to the microsecond, and their texts. The date and the time are set
apart by the letter `T`; in names of files hyphens stand for the colons.
-/

set_option autoImplicit false

namespace BasicBench.Time

structure Moment where
  year : Nat
  month : Nat
  day : Nat
  hour : Nat := 0
  minute : Nat := 0
  second : Nat := 0
  microsecond : Nat := 0
  deriving DecidableEq, Repr

def isLeapYear (year : Nat) : Bool := year % 4 = 0 && (year % 100 ≠ 0 || year % 400 = 0)

def daysOfMonth (year month : Nat) : Nat :=
  if month = 2 then if isLeapYear year then 29 else 28
  else if month ∈ [4, 6, 9, 11] then 30
  else 31

/-- The decimal digits of a number, with zeros in front up to a width. -/
def padded (width value : Nat) : String :=
  let digits := toString value
  "".pushn '0' (width - digits.length) ++ digits

namespace Moment

/-- Whether the calendar has the moment. Years have at most four digits. -/
def isValid (moment : Moment) : Bool :=
  1 ≤ moment.year && moment.year ≤ 9999 && 1 ≤ moment.month && moment.month ≤ 12 &&
    1 ≤ moment.day && moment.day ≤ daysOfMonth moment.year moment.month &&
    moment.hour < 24 && moment.minute < 60 && moment.second < 60 &&
    moment.microsecond < 1000000

/-- A moment from its parts, the largest unit first; parts that are left out are zero. -/
def ofParts? (parts : List Int) : Option Moment :=
  if parts.any (· < 0) then none
  else
    let part (index : Nat) : Nat := (parts[index]?.getD 0).toNat
    let moment : Moment := ⟨part 0, part 1, part 2, part 3, part 4, part 5, part 6⟩
    if moment.isValid then some moment else none

def dateText (moment : Moment) : String :=
  padded 4 moment.year ++ "-" ++ padded 2 moment.month ++ "-" ++ padded 2 moment.day

def clockText (mark : String) (moment : Moment) : String :=
  mark.intercalate [padded 2 moment.hour, padded 2 moment.minute, padded 2 moment.second]

/-- The text in records. Microseconds are written only when there are any. -/
def text (moment : Moment) : String :=
  moment.dateText ++ "T" ++ moment.clockText ":" ++
    if moment.microsecond = 0 then "" else "." ++ padded 6 moment.microsecond

/-- The text in names of files. -/
def stamp (moment : Moment) : String := moment.dateText ++ "T" ++ moment.clockText "-"

end Moment
end BasicBench.Time
