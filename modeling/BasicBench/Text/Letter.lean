import BasicBench.Text.CaseRuns
import BasicBench.Text.CasedRanges
import BasicBench.Text.Space
import BasicBench.Text.WordChar

/-!
Letter case. `upper` maps a text character by character, so it distributes over concatenation;
one character may become several. `lower` does the same but for the capital sigma, which has a
form of its own at the end of a word, so it depends on what stands around it. Two letters are
the same letter in either case when they differ only in case; the dotted and dotless i, the
long s and the Kelvin sign count as further forms of `I`, `S` and `K`.
-/

set_option autoImplicit false

namespace BasicBench.Text

def expansion? (expansions : List (Nat × List Nat)) (code : Nat) : Option (List Nat) :=
  (expansions.find? (·.1 == code)).map (·.2)

/-- The upper-case form of one character. -/
def upperChar (c : Char) : Text :=
  let n := c.toNat
  if n < 128 then if 97 ≤ n && n ≤ 122 then [Char.ofNat (n - 32)] else [c]
  else match expansion? upperExpansions n with
    | some codes => codes.map Char.ofNat
    | none => [((CaseRun.shifted? upperRuns n).map Char.ofNat).getD c]

/-- The lower-case form of one character away from the end of a word. -/
def lowerChar (c : Char) : Text :=
  let n := c.toNat
  if n < 128 then if 65 ≤ n && n ≤ 90 then [Char.ofNat (n + 32)] else [c]
  else match expansion? lowerExpansions n with
    | some codes => codes.map Char.ofNat
    | none => [((CaseRun.shifted? lowerRuns n).map Char.ofNat).getD c]

/-- The marks that are looked past in the search for a letter: accents, and the signs that
stand inside words. -/
def isPassed (c : Char) : Bool :=
  if c.toNat < 128 then c ∈ ['\'', '.', ':', '^', '\x60'] else inRanges passedRanges c.toNat

/-- The letters with a case that are not looked past. -/
def isCased (c : Char) : Bool :=
  if c.toNat < 128 then isLetter c else inRanges casedRanges c.toNat

/-- Whether the first character that is not looked past has a case. -/
def meetsCased (text : Text) : Bool := ((text.dropWhile isPassed).head?.map isCased).getD false

/-- Whether a place is the end of a word, with the text before it in reverse. -/
def closesWord (before after : Text) : Bool := meetsCased before && !meetsCased after

def capitalSigma : Char := 'Σ'

/-- The lower-case forms of the characters of a text that follows `before`, which is in reverse. -/
def lowerFrom (before : Text) : Text → Text
  | [] => []
  | c :: rest =>
      (if c = capitalSigma then if closesWord before rest then ['ς'] else ['σ'] else lowerChar c) ++
        lowerFrom (c :: before) rest

def upper (text : Text) : Text := text.flatMap upperChar

def lower (text : Text) : Text := lowerFrom [] text

theorem upper_append (left right : Text) : upper (left ++ right) = upper left ++ upper right :=
  List.flatMap_append

theorem lowerFrom_of_no_sigma (before text : Text) (none : capitalSigma ∉ text) :
    lowerFrom before text = text.flatMap lowerChar := by
  induction text generalizing before with
  | nil => rfl
  | cons c rest ih =>
      have other : c ≠ capitalSigma := fun same => none (same ▸ List.mem_cons_self)
      have later : capitalSigma ∉ rest := fun found => none (List.mem_cons_of_mem c found)
      simp [lowerFrom, other, ih _ later]

theorem lower_append (left right : Text) (noneLeft : capitalSigma ∉ left)
    (noneRight : capitalSigma ∉ right) : lower (left ++ right) = lower left ++ lower right := by
  have both : capitalSigma ∉ left ++ right := by simp [noneLeft, noneRight]
  simp only [lower, lowerFrom_of_no_sigma _ _ both, lowerFrom_of_no_sigma _ _ noneLeft,
    lowerFrom_of_no_sigma _ _ noneRight, List.flatMap_append]

/-- The ASCII capital that a character is a form of; other characters stand for themselves. -/
def capital (c : Char) : Char :=
  let n := c.toNat
  if 97 ≤ n && n ≤ 122 then Char.ofNat (n - 32)
  else if n == 0x130 || n == 0x131 then 'I'
  else if n == 0x17F then 'S'
  else if n == 0x212A then 'K'
  else c

/-- Whether two characters are the same up to the case of ASCII letters. -/
def sameLetter (a b : Char) : Bool := capital a == capital b

/-- The letters of ASCII and the four characters that are forms of one. -/
def isLetterForm (c : Char) : Bool := isLetter (capital c)

end BasicBench.Text
