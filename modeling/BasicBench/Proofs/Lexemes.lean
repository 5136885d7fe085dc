import BasicBench.Proofs.TailChange
import BasicBench.Proofs.Trimming
import BasicBench.Source.Token
import Mathlib.Data.List.Infix
import Mathlib.Data.List.TakeWhile

/-!
What one token takes of a text. Every token is a piece of the text in front. No class of characters
has a quote or an apostrophe in it, so a token other than a string is read from the characters in
front of the next of these two, whatever stands behind; and a string reaches to the next quote or to
the end of the text. Spaces and tabs are skipped, and any other blank is a token that means nothing.
-/

set_option autoImplicit false

namespace BasicBench.Token

open Text

/-- The characters that open strings and remarks. -/
def isMark (c : Char) : Bool := c == '"' || c == '\''

/-- No string and no remark begins in the text. -/
abbrev Unmarked (text : Text) : Prop := ∀ c ∈ text, isMark c = false

/-- The text is at its end, at a string or at a remark. -/
inductive AtMark : Text → Prop
  | ends : AtMark []
  | string (rest : Text) : AtMark ('"' :: rest)
  | remark (rest : Text) : AtMark ('\'' :: rest)

theorem split_at_mark (text : Text) :
    ∃ shown marked, text = shown ++ marked ∧ Unmarked shown ∧ AtMark marked := by
  refine ⟨text.takeWhile (!isMark ·), text.dropWhile (!isMark ·),
    List.takeWhile_append_dropWhile.symm, fun c member => ?_, ?_⟩
  · simpa using List.mem_takeWhile_imp member
  · have stays := List.head?_dropWhile_not (!isMark ·) text
    cases marked : text.dropWhile (!isMark ·) with
    | nil => exact .ends
    | cons c rest =>
        rw [marked] at stays
        simp only [List.head?_cons, Bool.not_eq_false', isMark, Bool.or_eq_true, beq_iff_eq]
          at stays
        rcases stays with rfl | rfl
        · exact .string rest
        · exact .remark rest

/-! A token other than a string is read from the characters before the next mark. -/

/-- The class holds neither mark. -/
abbrev Avoids (accepts : Char → Bool) : Prop := accepts '"' = false ∧ accepts '\'' = false

section Marks

variable {accepts : Char → Bool} {right : Text} (mark : AtMark right)
include mark

theorem take_while_at_mark (avoids : Avoids accepts) (text : Text) :
    (text ++ right).takeWhile accepts = text.takeWhile accepts := by
  induction text with
  | nil => cases mark <;> simp [avoids]
  | cons c text induction =>
      rw [List.cons_append, List.takeWhile_cons, List.takeWhile_cons, induction]

theorem run_at_mark (avoids : Avoids accepts) (text : Text) :
    run accepts (text ++ right) = ((run accepts text).1, (run accepts text).2 ++ right) := by
  have behind : (text ++ right).dropWhile accepts = text.dropWhile accepts ++ right := by
    induction text with
    | nil => cases mark <;> simp [avoids]
    | cons c text induction =>
        rw [List.cons_append, List.dropWhile_cons, List.dropWhile_cons, induction]
        split <;> rfl
  rw [run, take_while_at_mark mark avoids, behind, run]

theorem name_at_mark (text : Text) : name? (text ++ right) = name? text := by
  cases text with
  | nil => cases mark <;> rfl
  | cons c text =>
      have body := run_at_mark mark (show Avoids isNameChar by decide) text
      have sigils := take_while_at_mark mark (show Avoids isNameSigil by decide)
      simp only [List.cons_append, name?, body, sigils]

theorem exponent_at_mark (text : Text) : exponent (text ++ right) = exponent text := by
  have digits := take_while_at_mark mark (show Avoids isDecimal by decide)
  rcases text with _ | ⟨letter, _ | ⟨sign, text⟩⟩
  · cases mark <;> rfl
  · cases mark <;> rfl
  · have unsigned := digits (sign :: text)
    rw [List.cons_append] at unsigned
    simp only [List.cons_append, exponent]
    by_cases plus : sign = '+'
    · simp [plus, digits]
    · by_cases minus : sign = '-' <;> simp [plus, minus, digits, unsigned]

theorem mantissa_at_mark (text : Text) : mantissa? (text ++ right) = mantissa? text := by
  cases text with
  | nil => cases mark <;> rfl
  | cons c text =>
      have digits := take_while_at_mark mark (show Avoids isDecimal by decide)
      have whole := run_at_mark mark (show Avoids isDecimal by decide) text
      simp only [List.cons_append, mantissa?, digits, whole]
      cases (run isDecimal text).2 with
      | nil => cases mark <;> rfl
      | cons d after => by_cases point : d = '.' <;> simp [point, digits]

theorem radix_at_mark (text : Text) : radixNumber? (text ++ right) = radixNumber? text := by
  rcases text with _ | ⟨c, text⟩
  · cases mark <;> rfl
  · by_cases ampersand : c = '&'
    · subst ampersand
      cases text with
      | nil => cases mark <;> rfl
      | cons base text =>
          have digits := run_at_mark mark (show Avoids isHexDigit by decide) text
          have sigils := take_while_at_mark mark (show Avoids isRadixSigil by decide)
          simp only [List.cons_append, radixNumber?, digits, sigils]
    · simp [radixNumber?, ampersand]

theorem operator_at_mark (c : Char) (text : Text) :
    operator? (c :: (text ++ right)) = operator? (c :: text) := by
  rcases text with _ | ⟨d, text⟩
  · cases mark <;> simp [operator?]
  · rw [List.cons_append]
    by_cases less : c = '<'
    · by_cases other : d = '>' ∨ d = '='
      · rcases other with rfl | rfl <;> simp [operator?, less]
      · rw [not_or] at other
        simp [operator?, less, other]
    · by_cases greater : c = '>'
      · by_cases equal : d = '=' <;> simp [operator?, greater, equal]
      · simp [operator?, less, greater]

end Marks

/-! Every token is a piece of the text in front. -/

theorem prefix_extend {front next text : Text} (first : front <+: text)
    (second : next <+: text.drop front.length) : front ++ next <+: text := by
  obtain ⟨rest, rfl⟩ := first
  rw [List.drop_left] at second
  exact (List.prefix_append_right_inj front).mpr second

theorem run_extend (accepts : Char → Bool) {text next : Text}
    (behind : next <+: text.dropWhile accepts) : text.takeWhile accepts ++ next <+: text := by
  obtain ⟨rest, split⟩ := behind
  exact ⟨rest, by rw [List.append_assoc, split, List.takeWhile_append_dropWhile]⟩

theorem name_front {text word : Text} (found : name? text = some word) :
    word <+: text ∧ word ≠ [] := by
  cases text with
  | nil => cases found
  | cons c rest =>
      rw [name?] at found
      split at found
      · obtain rfl := Option.some.inj found
        exact ⟨(List.prefix_cons_inj c).mpr (run_extend _ (List.takeWhile_prefix _)),
          List.cons_ne_nil _ _⟩
      · cases found

theorem digits_front (front rest : Text) : front ++ rest.takeWhile isDecimal <+: front ++ rest :=
  (List.prefix_append_right_inj front).mpr (List.takeWhile_prefix _)

theorem exponent_front (text : Text) : exponent text <+: text := by
  rcases text with _ | ⟨letter, rest⟩
  · exact List.prefix_rfl
  · simp only [exponent]
    split
    · rcases rest with _ | ⟨sign, rest⟩
      · exact List.nil_prefix
      · by_cases plus : sign = '+'
        · subst plus
          split
          · exact List.nil_prefix
          · exact digits_front [letter, '+'] rest
        · by_cases minus : sign = '-'
          · subst minus
            split
            · exact List.nil_prefix
            · exact digits_front [letter, '-'] rest
          · simp only [List.cons.injEq, plus, minus, false_and, imp_self, implies_true]
            split
            · exact List.nil_prefix
            · exact digits_front [letter] (sign :: rest)
    · exact List.nil_prefix

theorem mantissa_front {text digits : Text} (found : mantissa? text = some digits) :
    digits <+: text ∧ digits ≠ [] := by
  cases text with
  | nil => cases found
  | cons c rest =>
      simp only [mantissa?, run] at found
      split at found
      · split at found
        · next fraction point =>
          obtain rfl := Option.some.inj found
          refine ⟨(List.prefix_cons_inj c).mpr (run_extend _ ?_), List.cons_ne_nil _ _⟩
          rw [point]
          exact (List.prefix_cons_inj '.').mpr (List.takeWhile_prefix _)
        · obtain rfl := Option.some.inj found
          exact ⟨(List.prefix_cons_inj c).mpr (List.takeWhile_prefix _), List.cons_ne_nil _ _⟩
      · split at found
        · next point =>
          split at found
          · cases found
          · obtain rfl := Option.some.inj found
            subst point
            exact ⟨(List.prefix_cons_inj '.').mpr (List.takeWhile_prefix _), List.cons_ne_nil _ _⟩
        · cases found

theorem number_front {text number : Text} (found : number? text = some number) :
    number <+: text ∧ number ≠ [] := by
  obtain ⟨digits, whole, rfl⟩ := Option.map_eq_some_iff.mp found
  obtain ⟨front, some⟩ := mantissa_front whole
  refine ⟨prefix_extend (prefix_extend front (exponent_front _)) ?_, by simp [some]⟩
  rw [List.length_append]
  exact List.takeWhile_prefix _

theorem radix_front {text number : Text} (found : radixNumber? text = some number) :
    number <+: text ∧ number ≠ [] := by
  unfold radixNumber? at found
  split at found
  · next base rest =>
      simp only [run, List.isEmpty_iff, Option.ite_none_right_eq_some,
        Option.ite_none_left_eq_some, Option.some.injEq] at found
      obtain ⟨-, -, rfl⟩ := found
      refine ⟨?_, List.cons_ne_nil _ _⟩
      simp only [List.cons_append, List.prefix_cons_inj]
      exact run_extend _ (List.takeWhile_prefix _)
  · cases found

theorem operator_front {text operator : Text} (found : operator? text = some operator) :
    operator <+: text ∧ operator ≠ [] := by
  unfold operator? at found
  split at found
  · cases found; simp
  · cases found; simp
  · cases found; simp
  · split at found
    · cases found; simp
    · cases found
  · cases found

theorem number_at_mark {right : Text} (mark : AtMark right) (text : Text) :
    number? (text ++ right) = number? text := by
  rw [number?, mantissa_at_mark mark, number?]
  cases whole : mantissa? text with
  | none => rfl
  | some digits =>
      have front := (mantissa_front whole).1.length_le
      have power := (exponent_front (text.drop digits.length)).length_le
      rw [List.length_drop] at power
      simp only [Option.map_some, List.drop_append_of_le_length front, exponent_at_mark mark]
      rw [List.drop_append_of_le_length (by omega), take_while_at_mark mark (by decide)]

/-! Tokens. -/

theorem read_string (rest : Text) : read '"' rest = (.string, '"' :: stringTail rest) := by
  rw [read, if_pos rfl]

theorem string_tail_opened {text : Text} (opened : '"' ∉ text) : stringTail text = text := by
  have whole : text.dropWhile (· != '"') = [] := by
    rw [List.dropWhile_eq_nil_iff]
    exact fun c member => bne_iff_ne.mpr fun same => opened (same ▸ member)
  rw [stringTail, whole]

theorem string_tail_closed {body : Text} (noQuote : '"' ∉ body) (behind : Text) :
    stringTail (body ++ '"' :: behind) = body ++ ['"'] := by
  have kept : ∀ c ∈ body, (c != '"') = true :=
    fun c member => bne_iff_ne.mpr fun same => noQuote (same ▸ member)
  rw [stringTail, List.dropWhile_append_of_pos kept, List.takeWhile_append_of_pos kept]
  simp

theorem read_at_mark {c : Char} (noQuote : c ≠ '"') {right : Text} (mark : AtMark right)
    (text : Text) : read c (text ++ right) = read c text := by
  have radix := radix_at_mark mark (c :: text)
  have number := number_at_mark mark (c :: text)
  have name := name_at_mark mark (c :: text)
  rw [List.cons_append] at radix number name
  simp only [read, if_neg noQuote, radix, number, name, name_at_mark mark text,
    operator_at_mark mark c text]

theorem read_front {c : Char} (noQuote : c ≠ '"') {rest lexeme : Text} {kind : TokenKind}
    (found : read c rest = (kind, lexeme)) :
    kind ≠ .string ∧ lexeme <+: c :: rest ∧ lexeme ≠ [] := by
  rw [read, if_neg noQuote] at found
  split at found
  · next radix =>
      obtain ⟨rfl, rfl⟩ := Prod.mk.inj found
      exact ⟨by decide, radix_front radix⟩
  split at found
  · next number =>
      obtain ⟨rfl, rfl⟩ := Prod.mk.inj found
      exact ⟨by decide, number_front number⟩
  split at found
  · next name =>
      obtain ⟨rfl, rfl⟩ := Prod.mk.inj found
      exact ⟨by decide, name_front name⟩
  split at found
  · next name =>
      obtain ⟨rfl, rfl⟩ := Prod.mk.inj found
      split at name
      · exact ⟨by decide, (List.prefix_cons_inj c).mpr (name_front name).1, List.cons_ne_nil _ _⟩
      · cases name
  split at found
  · next operator =>
      obtain ⟨rfl, rfl⟩ := Prod.mk.inj found
      exact ⟨by decide, operator_front operator⟩
  split at found
  all_goals
    obtain ⟨rfl, rfl⟩ := Prod.mk.inj found
    exact ⟨by decide, by simp⟩

/-- A token other than a string lies in front of the next mark. -/
theorem read_before_mark {c : Char} (noQuote : c ≠ '"') {shown marked lexeme : Text}
    {kind : TokenKind} (mark : AtMark marked) (found : read c (shown ++ marked) = (kind, lexeme)) :
    kind ≠ .string ∧ ∃ more left, lexeme = c :: more ∧ shown = more ++ left := by
  rw [read_at_mark noQuote mark] at found
  obtain ⟨plain, front, some⟩ := read_front noQuote found
  obtain ⟨more, rfl, left, split⟩ := (List.prefix_cons_iff.mp front).resolve_left some
  exact ⟨plain, more, left, rfl, split.symm⟩

/-! Steps of a scan. -/

/-- The characters that are skipped between tokens. -/
def isGap (c : Char) : Bool := c == ' ' || c == '\t'

theorem scan_gap (column : Nat) {c : Char} (gap : isGap c = true) (rest : Text) :
    scan column (c :: rest) = scan (column + 1) rest := by
  rw [scan, if_pos (by simpa [isGap] using gap)]

theorem scan_comment (column : Nat) {rest : Text} (unbroken : '\n' ∉ rest) :
    scan column ('\'' :: rest) = some [] := by
  have whole : rest.dropWhile (· != '\n') = [] := by
    rw [List.dropWhile_eq_nil_iff]
    exact fun c member => bne_iff_ne.mpr fun same => unbroken (same ▸ member)
  rw [scan, if_neg (by decide), if_pos rfl, whole, scan]

theorem scan_token {c : Char} {rest lexeme : Text} {kind : TokenKind} (column : Nat)
    (gap : isGap c = false) (others : c ≠ '\'' ∧ c ≠ '\n')
    (found : read c rest = (kind, lexeme)) :
    scan column (c :: rest) = if isRemark kind lexeme then some []
      else (scan (columnAfter column lexeme) (rest.drop (lexeme.length - 1))).map
        (⟨kind, lexeme, column⟩ :: ·) := by
  rw [scan, if_neg (by simpa [isGap] using gap), if_neg others.1, if_neg others.2, found]

theorem column_after_unbroken (column : Nat) {text : Text} (unbroken : '\n' ∉ text) :
    columnAfter column text = column + text.length := by
  rw [columnAfter, if_neg]
  simpa using unbroken

theorem scan_opened_string (column : Nat) {body : Text} (noQuote : '"' ∉ body) :
    scan column ('"' :: body) = some [⟨.string, '"' :: body, column⟩] := by
  have found := read_string body
  rw [string_tail_opened noQuote] at found
  rw [scan_token column (by decide) (by decide) found, List.length_cons, Nat.add_sub_cancel,
    List.drop_length, scan]
  rfl

theorem scan_closed_string (column : Nat) {body : Text} (noQuote : '"' ∉ body)
    (unbroken : '\n' ∉ body) (behind : Text) :
    scan column ('"' :: (body ++ '"' :: behind)) =
      (scan (column + (body.length + 2)) behind).map
        (⟨.string, '"' :: (body ++ ['"']), column⟩ :: ·) := by
  have found := read_string (body ++ '"' :: behind)
  rw [string_tail_closed noQuote] at found
  have after : columnAfter column ('"' :: (body ++ ['"'])) = column + (body.length + 2) := by
    rw [column_after_unbroken column (by simpa using unbroken)]
    simp
  have dropped : (body ++ '"' :: behind).drop (('"' :: (body ++ ['"'])).length - 1) = behind := by
    simp
  rw [scan_token column (by decide) (by decide) found, after, dropped]
  rfl

/-! Blanks. -/

theorem blank_codes_are_no_digits :
    blankCodes.all (fun code => !(if code < 128 then 48 ≤ code && code ≤ 57
      else inRanges decimalRanges code)) = true := by
  decide +kernel

theorem not_decimal_of_space {c : Char} (blank : isSpace c = true) : isDecimal c = false := by
  have checked := List.all_eq_true.mp blank_codes_are_no_digits _ ((is_space_iff c).mp blank)
  rw [isDecimal, isDigit]
  simpa using checked

/-- A blank that is read as a token means nothing. -/
theorem read_blank {c : Char} (blank : isSpace c = true) (rest : Text) :
    read c rest = (.other, [c]) := by
  have other (d : Char) (solid : isSpace d = false) : c ≠ d := by
    rintro rfl
    rw [solid] at blank
    cases blank
  have apart (marks : Text) (solid : marks.all (fun d => !isSpace d) = true) :
      List.contains marks c = false := by
    rw [List.contains_eq_mem, decide_eq_false_iff_not]
    intro member
    have mark := List.all_eq_true.mp solid c member
    rw [blank] at mark
    cases mark
  have noDigit := not_decimal_of_space blank
  have noName : isNameStart c = false := by
    cases start : isNameStart c with
    | false => rfl
    | true =>
        rw [Pattern.not_space_of_name_start c start] at blank
        cases blank
  have radix : radixNumber? (c :: rest) = none := by
    rw [radixNumber?]
    rintro base more same
    exact other '&' (by decide) (List.cons.inj same).1
  have number : number? (c :: rest) = none := by
    rw [number?, mantissa?, noDigit, if_neg (by decide), if_neg (other '.' (by decide))]
    rfl
  have name : name? (c :: rest) = none := by
    rw [name?, noName, if_neg (by decide)]
  have operator : operator? (c :: rest) = none := by
    rw [operator?]
    · rw [apart "=<>+-*/\\^".toList (by decide), if_neg (by decide)]
    · exact fun _ same _ => other '<' (by decide) same
    · exact fun _ same _ => other '<' (by decide) same
    · exact fun _ same _ => other '>' (by decide) same
  have punctuation := apart "(),;:#".toList (by decide)
  simp only [read, if_neg (other '"' (by decide)), radix, number, name,
    if_neg (other '$' (by decide)), operator, punctuation, Bool.false_eq_true, if_false]

/-- The tokens of a text behind blanks. -/
theorem scan_blanks {left : Text} (blank : Blank left) (unbroken : '\n' ∉ left) (column : Nat)
    (text : Text) : ∃ blanks, (∀ token ∈ blanks, token.kind = .other) ∧
      scan column (left ++ text) = (scan (column + left.length) text).map (blanks ++ ·) := by
  induction left generalizing column with
  | nil => exact ⟨[], List.forall_mem_nil _, by simp⟩
  | cons c left induction =>
      rw [Blank, List.forall_mem_cons] at blank
      rw [List.mem_cons, not_or] at unbroken
      obtain ⟨blanks, other, scanned⟩ := induction blank.2 unbroken.2 (column + 1)
      rw [List.length_cons, Nat.add_comm left.length 1, ← Nat.add_assoc]
      cases gap : isGap c with
      | true => exact ⟨blanks, other, by rw [List.cons_append, scan_gap column gap, scanned]⟩
      | false =>
          have noRemark : c ≠ '\'' := by
            rintro rfl
            exact absurd blank.1 (by decide)
          have token := scan_token column gap ⟨noRemark, Ne.symm unbroken.1⟩
            (read_blank blank.1 (left ++ text))
          have after : columnAfter column [c] = column + 1 :=
            column_after_unbroken column (by simpa using unbroken.1)
          refine ⟨⟨.other, [c], column⟩ :: blanks, List.forall_mem_cons.mpr ⟨rfl, other⟩, ?_⟩
          rw [List.cons_append, token, show isRemark .other [c] = false from rfl, after,
            List.length_singleton, Nat.sub_self, List.drop_zero, scanned, Option.map_map]
          rfl

end BasicBench.Token
