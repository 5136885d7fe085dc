import BasicBench.Text.Space
import BasicBench.Text.WordChar

/-!
Options on a command line. A word is an option when it starts with a hyphen and is no number,
no single hyphen and no text with a space. An option may be written out, shortened to any
beginning that fits no other, or, when its name is one letter, joined with its value or with
other such options. After a double hyphen no word is an option. A word that may mean several
options is refused before anything is read; a word that means none is passed over and refused
at the end, so that help is given to those who ask for it further on.
-/

set_option autoImplicit false

namespace BasicBench.CommandLine

open Text

/-- Why a command line is not carried out. -/
inductive Usage where
  | help | misuse
  deriving DecidableEq, Repr

/-- What an option does to the settings. A value may be refused. -/
inductive Effect (Settings : Type) where
  | help
  | flag (set : Settings → Settings)
  | value (set? : Text → Settings → Option Settings)

structure OptionRule (Settings : Type) where
  names : List String
  effect : Effect Settings

/-- What a word is, and for an option the text that is joined to it. That text is a value when
it `isWhole`, and may be a row of one-letter options when it is not. -/
inductive Word (Settings : Type) where
  | positional
  | option (effect : Effect Settings) (isWhole : Bool) (joined : Option Text)
  | unknown
  | ambiguous

section

variable {Settings : Type}

/-- The rules with each of their names. -/
def named (rules : List (OptionRule Settings)) : List (Text × Effect Settings) :=
  rules.flatMap fun rule => rule.names.map fun name => (name.toList, rule.effect)

def effectOf? (rules : List (OptionRule Settings)) (name : Text) : Option (Effect Settings) :=
  ((named rules).find? (·.1 == name)).map (·.2)

/-- The text before the first equals sign and, when there is one, the text after it. -/
def splitValue (word : Text) : Text × Option Text :=
  match word.dropWhile (· != '=') with
  | [] => (word, none)
  | _ :: value => (word.takeWhile (· != '='), some value)

/-- A hyphen and decimal digits, of which some may follow a point; a line feed may close it. -/
def isNegativeNumber (word : Text) : Bool :=
  match if word.getLast? == some '\n' then word.dropLast else word with
  | '-' :: size =>
      let whole := size.takeWhile isDecimal
      match size.dropWhile isDecimal with
      | [] => !whole.isEmpty
      | '.' :: rest => !rest.isEmpty && rest.all isDecimal
      | _ => false
  | _ => false

/-- The options that a shortened or joined word may mean. -/
def candidates (rules : List (OptionRule Settings)) (word : Text) : List (Word Settings) :=
  if startsWith ['-', '-'] word then
    let (head, value) := splitValue word
    ((named rules).filter fun rule => startsWith head rule.1).map fun rule =>
      .option rule.2 true value
  else
    ((named rules).filter fun rule => rule.1 == word.take 2).map fun rule =>
      .option rule.2 false (some (word.drop 2))

def classify (rules : List (OptionRule Settings)) (word : Text) : Word Settings :=
  match word with
  | '-' :: _ :: _ =>
      let (head, value) := splitValue word
      match effectOf? rules word, value.bind fun _ => effectOf? rules head with
      | some effect, _ => .option effect true none
      | none, some effect => .option effect true value
      | none, none =>
          match candidates rules word with
          | [word] => word
          | _ :: _ => .ambiguous
          | [] => if isNegativeNumber word || word.elem ' ' then .positional else .unknown
  | _ => .positional

def isPositional (rules : List (OptionRule Settings)) (word : Text) : Bool :=
  match classify rules word with
  | .positional => true
  | _ => false

def isAmbiguous (rules : List (OptionRule Settings)) (word : Text) : Bool :=
  match classify rules word with
  | .ambiguous => true
  | _ => false

/-- Whether some word before a double hyphen may mean several options. -/
def hasAmbiguous (rules : List (OptionRule Settings)) (words : List Text) : Bool :=
  (words.takeWhile (· != ['-', '-'])).any (isAmbiguous rules)

/-- The settings so far, and whether every option was understood. -/
structure Progress (Settings : Type) where
  settings : Settings
  isUnderstood : Bool := true

/-- What a row of joined options amounts to: its flags are applied, it may ask for help, and the
last option may still want the next word as its value. -/
structure Joined (Settings : Type) where
  progress : Progress Settings
  asksHelp : Bool := false
  last : Option (Effect Settings) := none

namespace Joined

/-- Takes over an option that wants no value. -/
def apply (joined : Joined Settings) : Effect Settings → Joined Settings
  | .help => { joined with asksHelp := true }
  | .flag set =>
      { joined with
        progress := { joined.progress with settings := set joined.progress.settings } }
  | .value _ => joined

/-- Takes over an option with its value, unless the row has asked for help before. -/
def setValue (joined : Joined Settings) (set? : Text → Settings → Option Settings)
    (value : Text) : Except Usage (Progress Settings) :=
  if joined.asksHelp then .error .help
  else match set? value joined.progress.settings with
    | some settings => .ok { joined.progress with settings }
    | none => .error .misuse

/-- Takes over an option with a text that can only be its value. -/
def readValue (joined : Joined Settings) : Effect Settings → Text →
    Except Usage (Joined Settings)
  | .value set?, value => (joined.setValue set? value).map fun progress => { progress }
  | _, _ => .error .misuse

/-- Takes over an option and the text after it. An option without a value takes the text as a
row of further options of one letter each, of which one may have its value after an equals
sign. -/
def readRow (rules : List (OptionRule Settings)) (joined : Joined Settings) :
    Effect Settings → Text → Except Usage (Joined Settings)
  | .value set?, value => joined.readValue (.value set?) value
  | _, [] => .error .misuse
  | effect, letter :: rest =>
      if letter = '-' then .error .misuse
      else
        let joined := joined.apply effect
        match effectOf? rules ['-', letter] with
        | none => .ok { joined with progress := { joined.progress with isUnderstood := false } }
        | some next =>
            if rest.isEmpty then .ok { joined with last := some next }
            else if rest.head? = some '=' then joined.readValue next rest.tail
            else readRow rules joined next rest

end Joined

/-- Reads words up to the first positional one. -/
def readOptions (rules : List (OptionRule Settings)) (progress : Progress Settings) :
    List Text → Except Usage (Progress Settings × List Text)
  | [] => .ok (progress, [])
  | word :: rest =>
      if word = ['-', '-'] then .ok (progress, word :: rest)
      else
        match classify rules word with
        | .positional => .ok (progress, word :: rest)
        | .ambiguous => .error .misuse
        | .unknown => readOptions rules { progress with isUnderstood := false } rest
        | .option effect isWhole text =>
            let row : Except Usage (Joined Settings) := match text with
              | none => .ok { progress, last := some effect }
              | some text =>
                  if isWhole then Joined.readValue { progress } effect text
                  else Joined.readRow rules { progress } effect text
            match row with
            | .error usage => .error usage
            | .ok joined =>
                match joined.last with
                | some (.value set?) =>
                    match rest with
                    | value :: rest =>
                        if value = ['-', '-'] || !isPositional rules value then .error .misuse
                        else match joined.setValue set? value with
                          | .ok progress => readOptions rules progress rest
                          | .error usage => .error usage
                    | [] => .error .misuse
                | other =>
                    let joined := (other.map joined.apply).getD joined
                    if joined.asksHelp then .error .help
                    else readOptions rules joined.progress rest

theorem length_readOptions (rules : List (OptionRule Settings)) (progress : Progress Settings)
    (words : List Text) (result : Progress Settings) (left : List Text)
    (read : readOptions rules progress words = .ok (result, left)) :
    left.length ≤ words.length := by
  fun_induction readOptions rules progress words <;> simp_all <;> omega

/-- Reads all words: the settings, and the positional words in their order. `isOpen` tells that
no positional word came before; after one, a double hyphen has to follow it at once. -/
def readFrom (rules : List (OptionRule Settings)) (progress : Progress Settings)
    (isOpen : Bool) (words : List Text) : Except Usage (Progress Settings × List Text) :=
  match _read : readOptions rules progress words with
  | .error usage => .error usage
  | .ok (progress, []) => .ok (progress, [])
  | .ok (progress, word :: rest) =>
      if word = ['-', '-'] then
        let isInPlace := isOpen || rest.length + 1 = words.length
        .ok ({ progress with isUnderstood := progress.isUnderstood && isInPlace }, rest)
      else
        match readFrom rules progress false rest with
        | .error usage => .error usage
        | .ok (progress, others) => .ok (progress, word :: others)
termination_by words.length
decreasing_by
  have bound := length_readOptions rules _ words _ _ _read
  simp only [List.length_cons] at bound
  omega

/-- Reads all words, of which each has to be understood. -/
def readWords (rules : List (OptionRule Settings)) (settings : Settings) (words : List Text) :
    Except Usage (Settings × List Text) := do
  if hasAmbiguous rules words then throw .misuse
  let (progress, others) ← readFrom rules { settings } true words
  if progress.isUnderstood then return (progress.settings, others) else throw .misuse

end

end BasicBench.CommandLine
