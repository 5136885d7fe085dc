import BasicBench.Text.Letter

/-!
Patterns that recognise a piece of text and the pieces inside it. A pattern is tried at a spot
and has, in order of preference, a list of spots at which it may stop: `ends`. Repetition is
over single characters only, so that list is finite and needs no fuel. `run` is the same
choice made one candidate at a time: it hands each stop to what follows and takes the first
that succeeds, so a preferred stop is given up only when the rest cannot succeed after it.
-/

set_option autoImplicit false

namespace BasicBench.Text

/-- A place in a text: the character before it, the characters after it, and the pieces that
were captured on the way there, the latest first. -/
structure Spot where
  before : Option Char
  rest : Text
  groups : List (Nat × Text)

namespace Spot

/-- Whether exactly one of the two neighbouring characters belongs to a word. -/
def atWordEdge (spot : Spot) : Bool :=
  spot.before.any isWordChar != spot.rest.head?.any isWordChar

/-- The end of the text, or the place before a line feed that closes it. -/
def atTextEnd (spot : Spot) : Bool :=
  match spot.rest with
  | [] => true
  | ['\n'] => true
  | _ => false

def atLineStart (spot : Spot) : Bool := spot.before.all (· == '\n')

/-- The characters between two spots of one text, the first of which comes earlier. -/
def between (start stop : Spot) : Text :=
  start.rest.take (start.rest.length - stop.rest.length)

def capture (stop : Spot) (index : Nat) (start : Spot) : Spot :=
  { stop with groups := (index, between start stop) :: stop.groups }

end Spot

/-- `many` prefers more characters and `few` prefers fewer; `either` prefers its first side. -/
inductive Pattern where
  | here
  | one (accepts : Char → Bool)
  | many (accepts : Char → Bool)
  | few (accepts : Char → Bool)
  | chain (first second : Pattern)
  | either (first second : Pattern)
  | capture (index : Nat) (inner : Pattern)
  | wordEdge
  | textStart
  | lineStart
  | textEnd
  | notAfter (rejects : Char → Bool)
  | ahead (inner : Pattern)
  | notAhead (inner : Pattern)

namespace Pattern

instance : Append Pattern := ⟨chain⟩
instance : OrOp Pattern := ⟨either⟩

def runMany (accepts : Char → Bool) (groups : List (Nat × Text)) (next : Spot → Option Spot) :
    Option Char → Text → Option Spot
  | before, [] => next ⟨before, [], groups⟩
  | before, c :: rest =>
      if accepts c then
        match runMany accepts groups next (some c) rest with
        | some stop => some stop
        | none => next ⟨before, c :: rest, groups⟩
      else next ⟨before, c :: rest, groups⟩

def runFew (accepts : Char → Bool) (groups : List (Nat × Text)) (next : Spot → Option Spot) :
    Option Char → Text → Option Spot
  | before, [] => next ⟨before, [], groups⟩
  | before, c :: rest =>
      match next ⟨before, c :: rest, groups⟩ with
      | some stop => some stop
      | none => if accepts c then runFew accepts groups next (some c) rest else none

/-- The first stop, in order of preference, after which `next` succeeds. -/
def run : Pattern → Spot → (Spot → Option Spot) → Option Spot
  | here, spot, next => next spot
  | one accepts, spot, next =>
      match spot.rest with
      | [] => none
      | c :: rest => if accepts c then next ⟨some c, rest, spot.groups⟩ else none
  | many accepts, spot, next => runMany accepts spot.groups next spot.before spot.rest
  | few accepts, spot, next => runFew accepts spot.groups next spot.before spot.rest
  | chain first second, spot, next => run first spot fun middle => run second middle next
  | either first second, spot, next =>
      match run first spot next with
      | some stop => some stop
      | none => run second spot next
  | capture index inner, spot, next => run inner spot fun stop => next (stop.capture index spot)
  | wordEdge, spot, next => if spot.atWordEdge then next spot else none
  | textStart, spot, next => if spot.before.isNone then next spot else none
  | lineStart, spot, next => if spot.atLineStart then next spot else none
  | textEnd, spot, next => if spot.atTextEnd then next spot else none
  | notAfter rejects, spot, next => if spot.before.any rejects then none else next spot
  | ahead inner, spot, next => if (run inner spot some).isSome then next spot else none
  | notAhead inner, spot, next => if (run inner spot some).isSome then none else next spot

def manyEnds (accepts : Char → Bool) (groups : List (Nat × Text)) :
    Option Char → Text → List Spot
  | before, [] => [⟨before, [], groups⟩]
  | before, c :: rest =>
      if accepts c then manyEnds accepts groups (some c) rest ++ [⟨before, c :: rest, groups⟩]
      else [⟨before, c :: rest, groups⟩]

def fewEnds (accepts : Char → Bool) (groups : List (Nat × Text)) :
    Option Char → Text → List Spot
  | before, [] => [⟨before, [], groups⟩]
  | before, c :: rest =>
      ⟨before, c :: rest, groups⟩ ::
        if accepts c then fewEnds accepts groups (some c) rest else []

/-- Every stop of a pattern tried at a spot, the preferred one first. -/
def ends : Pattern → Spot → List Spot
  | here, spot => [spot]
  | one accepts, spot =>
      match spot.rest with
      | [] => []
      | c :: rest => if accepts c then [⟨some c, rest, spot.groups⟩] else []
  | many accepts, spot => manyEnds accepts spot.groups spot.before spot.rest
  | few accepts, spot => fewEnds accepts spot.groups spot.before spot.rest
  | chain first second, spot => (ends first spot).flatMap (ends second)
  | either first second, spot => ends first spot ++ ends second spot
  | capture index inner, spot => (ends inner spot).map (·.capture index spot)
  | wordEdge, spot => if spot.atWordEdge then [spot] else []
  | textStart, spot => if spot.before.isNone then [spot] else []
  | lineStart, spot => if spot.atLineStart then [spot] else []
  | textEnd, spot => if spot.atTextEnd then [spot] else []
  | notAfter rejects, spot => if spot.before.any rejects then [] else [spot]
  | ahead inner, spot => if (ends inner spot).isEmpty then [] else [spot]
  | notAhead inner, spot => if (ends inner spot).isEmpty then [spot] else []

theorem run_many_eq (accepts : Char → Bool) (groups : List (Nat × Text))
    (next : Spot → Option Spot) (before : Option Char) (rest : Text) :
    runMany accepts groups next before rest =
      (manyEnds accepts groups before rest).findSome? next := by
  induction rest generalizing before with
  | nil => simp [runMany, manyEnds]
  | cons c rest induction =>
      by_cases accepted : accepts c = true
      · simp only [runMany, manyEnds, accepted, if_true, List.findSome?_append, induction]
        cases (manyEnds accepts groups (some c) rest).findSome? next <;> simp
      · simp [runMany, manyEnds, accepted]

theorem run_few_eq (accepts : Char → Bool) (groups : List (Nat × Text))
    (next : Spot → Option Spot) (before : Option Char) (rest : Text) :
    runFew accepts groups next before rest =
      (fewEnds accepts groups before rest).findSome? next := by
  induction rest generalizing before with
  | nil => simp [runFew, fewEnds]
  | cons c rest induction =>
      simp only [runFew, fewEnds, List.findSome?_cons]
      cases next ⟨before, c :: rest, groups⟩ with
      | some stop => rfl
      | none => by_cases accepted : accepts c = true <;> simp [accepted, induction]

theorem findSome_flatMap (spots : List Spot) (stops : Spot → List Spot)
    (next : Spot → Option Spot) :
    (spots.flatMap stops).findSome? next =
      spots.findSome? fun spot => (stops spot).findSome? next := by
  induction spots with
  | nil => rfl
  | cons spot spots induction =>
      rw [List.flatMap_cons, List.findSome?_append, List.findSome?_cons, induction]
      cases (stops spot).findSome? next <;> rfl

/-- Trying the stops one by one is searching the list of stops. -/
theorem run_eq_findSome (pattern : Pattern) (spot : Spot) (next : Spot → Option Spot) :
    pattern.run spot next = (pattern.ends spot).findSome? next := by
  induction pattern generalizing spot next with
  | here => simp [run, ends]
  | one accepts =>
      simp only [run, ends]
      cases spot.rest with
      | nil => rfl
      | cons c rest => by_cases accepted : accepts c = true <;> simp [accepted]
  | many accepts => exact run_many_eq ..
  | few accepts => exact run_few_eq ..
  | chain first second firstStep secondStep =>
      simp only [run, ends, findSome_flatMap, firstStep, secondStep]
  | either first second firstStep secondStep =>
      simp only [run, ends, List.findSome?_append, firstStep, secondStep]
      cases (first.ends spot).findSome? next <;> rfl
  | capture index inner step =>
      simp only [run, ends, step, List.findSome?_map]
      rfl
  | wordEdge => by_cases edge : spot.atWordEdge = true <;> simp [run, ends, edge]
  | textStart => by_cases start : spot.before.isNone = true <;> simp [run, ends, start]
  | lineStart => by_cases start : spot.atLineStart = true <;> simp [run, ends, start]
  | textEnd => by_cases stop : spot.atTextEnd = true <;> simp [run, ends, stop]
  | notAfter rejects =>
      by_cases rejected : spot.before.any rejects = true <;> simp [run, ends, rejected]
  | ahead inner step =>
      simp only [run, ends, step]
      cases inner.ends spot <;> simp
  | notAhead inner step =>
      simp only [run, ends, step]
      cases inner.ends spot <;> simp

/-- The preferred stop. -/
def stop? (pattern : Pattern) (spot : Spot) : Option Spot := pattern.run spot some

theorem stop_eq_head (pattern : Pattern) (spot : Spot) :
    pattern.stop? spot = (pattern.ends spot).head? := by
  rw [stop?, run_eq_findSome]
  cases pattern.ends spot <;> rfl

/-- Text that stands as written. -/
def exactly (text : String) : Pattern :=
  text.toList.foldr (fun c rest => one (· == c) ++ rest) here

/-- A fixed text in any mixture of the two cases. -/
def anyCase (text : String) : Pattern :=
  text.toList.foldr (fun c rest => one (sameLetter c) ++ rest) here

/-- A keyword in any mixture of cases with no word character on either side. -/
def keyword (text : String) : Pattern := wordEdge ++ anyCase text ++ wordEdge

def many1 (accepts : Char → Bool) : Pattern := one accepts ++ many accepts

def few1 (accepts : Char → Bool) : Pattern := one accepts ++ few accepts

def optional (inner : Pattern) : Pattern := inner ||| here

/-- The first of several patterns that leads to success. -/
def anyOf : List Pattern → Pattern
  | [] => one fun _ => false
  | [last] => last
  | first :: others => first ||| anyOf others

def blanks : Pattern := many isSpace

def blanks1 : Pattern := many1 isSpace

/-- Any character but a line feed. -/
def inLine (c : Char) : Bool := c != '\n'

def among (choices : String) (c : Char) : Bool := choices.toList.contains c

def notAmong (choices : String) (c : Char) : Bool := !among choices c

end Pattern

/-- A piece of a text that a pattern matched: how many characters stand before it, the piece
itself, and what was captured inside it. -/
structure Found where
  offset : Nat
  text : Text
  groups : List (Nat × Text)

namespace Found

def ofSpots (offset : Nat) (start stop : Spot) : Found :=
  ⟨offset, Spot.between start stop, stop.groups⟩

/-- What the group captured last, or nothing when it took no part. -/
def group? (found : Found) (index : Nat) : Option Text := found.groups.lookup index

def group (found : Found) (index : Nat) : Text := (found.group? index).getD []

/-- One-based column of the first character. -/
def column (found : Found) : Nat := found.offset + 1

end Found

namespace Pattern

/-- The match that begins where the text begins. -/
def atStart? (pattern : Pattern) (text : Text) : Option Found :=
  let start : Spot := ⟨none, text, []⟩
  (pattern.stop? start).map (Found.ofSpots 0 start)

def startsText (pattern : Pattern) (text : Text) : Bool := (pattern.atStart? text).isSome

def findFrom (pattern : Pattern) (offset : Nat) (before : Option Char) : Text → Option Found
  | [] =>
      let start : Spot := ⟨before, [], []⟩
      (pattern.stop? start).map (Found.ofSpots offset start)
  | c :: rest =>
      let start : Spot := ⟨before, c :: rest, []⟩
      match pattern.stop? start with
      | some stop => some (Found.ofSpots offset start stop)
      | none => findFrom pattern (offset + 1) (some c) rest

/-- The leftmost match. -/
def find? (pattern : Pattern) (text : Text) : Option Found := findFrom pattern 0 none text

def occursIn (pattern : Pattern) (text : Text) : Bool := (pattern.find? text).isSome

/-- Walks over the text; the first `skip` characters belong to the match found last. -/
def findAllFrom (pattern : Pattern) (skip offset : Nat) (before : Option Char) :
    Text → List Found
  | [] => []
  | c :: rest =>
      match skip with
      | skip + 1 => findAllFrom pattern skip (offset + 1) (some c) rest
      | 0 =>
          let start : Spot := ⟨before, c :: rest, []⟩
          match pattern.stop? start with
          | some stop =>
              let found := Found.ofSpots offset start stop
              found :: findAllFrom pattern (found.text.length - 1) (offset + 1) (some c) rest
          | none => findAllFrom pattern 0 (offset + 1) (some c) rest

/-- The matches from left to right, each beginning after the end of the one before it. Meant
for patterns that match no empty text. -/
def findAll (pattern : Pattern) (text : Text) : List Found := findAllFrom pattern 0 0 none text

def replaceFrom (pattern : Pattern) (write : Found → Text) (skip : Nat) (before : Option Char) :
    Text → Text
  | [] => []
  | c :: rest =>
      match skip with
      | skip + 1 => replaceFrom pattern write skip (some c) rest
      | 0 =>
          let start : Spot := ⟨before, c :: rest, []⟩
          match pattern.stop? start with
          | some stop =>
              let found := Found.ofSpots 0 start stop
              write found ++
                replaceFrom pattern write (found.text.length - 1) (some c) rest
          | none => c :: replaceFrom pattern write 0 (some c) rest

/-- Writes something else in place of every match that `findAll` finds. -/
def replaceAll (pattern : Pattern) (write : Found → Text) (text : Text) : Text :=
  replaceFrom pattern write 0 none text

/-- The text without the match that begins where the text begins. -/
def dropStart (pattern : Pattern) (text : Text) : Text :=
  match pattern.stop? ⟨none, text, []⟩ with
  | some stop => stop.rest
  | none => text

end Pattern
end BasicBench.Text
