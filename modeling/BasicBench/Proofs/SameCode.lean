import BasicBench.Proofs.Lexemes
import BasicBench.Proofs.Remarks
import Mathlib.Data.List.Forall2

/-!
Texts with the same code. What stands inside a string shows only in the text of that string, and
what stands in a comment shows nowhere. So two texts that differ in nothing else have the same
tokens at the same columns, and a text has those of its code.
-/

set_option autoImplicit false

namespace BasicBench.Token

open Text Check

/-- The code of a text ends where the text ends or a comment begins. -/
inductive CodeEnds : Text → Prop
  | text : CodeEnds []
  | comment (rest : Text) : CodeEnds ('\'' :: rest)

/-- Two texts with the same code but for characters inside strings, which need only be alike.
`inString` tells whether the texts begin inside a string. -/
inductive SameCode (alike : Char → Char → Prop) : Bool → Text → Text → Prop
  | ends {first second : Text} (one : CodeEnds first) (other : CodeEnds second) :
      SameCode alike false first second
  | opened : SameCode alike true [] []
  | quote (inString : Bool) {first second : Text}
      (behind : SameCode alike (!inString) first second) :
      SameCode alike inString ('"' :: first) ('"' :: second)
  | inside {c d : Char} (hidden : alike c d) (noQuotes : c ≠ '"' ∧ d ≠ '"') {first second : Text}
      (behind : SameCode alike true first second) : SameCode alike true (c :: first) (d :: second)
  | outside {c : Char} (shown : isMark c = false) {first second : Text}
      (behind : SameCode alike false first second) : SameCode alike false (c :: first) (c :: second)

/-- The same token, or two strings at one column that are closed alike and alike inside. -/
inductive SameToken (alike : Char → Char → Prop) : Token → Token → Prop
  | same (token : Token) : SameToken alike token token
  | string (column : Nat) {body other : Text} (hidden : List.Forall₂ alike body other)
      (closing : Text) : SameToken alike ⟨.string, '"' :: (body ++ closing), column⟩
        ⟨.string, '"' :: (other ++ closing), column⟩

variable {alike : Char → Char → Prop}

theorem same_code_append {shown first second : Text} (unmarked : Unmarked shown)
    (same : SameCode alike false first second) :
    SameCode alike false (shown ++ first) (shown ++ second) := by
  induction shown with
  | nil => exact same
  | cons c shown induction =>
      rw [Unmarked, List.forall_mem_cons] at unmarked
      exact .outside unmarked.1 (induction unmarked.2)

/-- Up to the next mark the texts are the same, and then both have a mark. -/
theorem same_code_split {first second : Text} (same : SameCode alike false first second) :
    ∃ shown marked others, first = shown ++ marked ∧ second = shown ++ others ∧
      Unmarked shown ∧ AtMark marked ∧ AtMark others ∧ SameCode alike false marked others := by
  have at_mark {text : Text} (ends : CodeEnds text) : AtMark text := by
    cases ends with
    | text => exact .ends
    | comment rest => exact .remark rest
  generalize start : false = inString at same
  induction same with
  | ends one other =>
      exact ⟨[], _, _, rfl, rfl, List.forall_mem_nil _, at_mark one, at_mark other, .ends one other⟩
  | opened | inside => cases start
  | quote inString behind =>
      subst start
      exact ⟨[], _, _, rfl, rfl, List.forall_mem_nil _, .string _, .string _, .quote false behind⟩
  | @outside c plain _ _ behind induction =>
      obtain ⟨shown, marked, others, rfl, rfl, unmarked, rest⟩ := induction start
      exact ⟨c :: shown, marked, others, rfl, rfl, List.forall_mem_cons.mpr ⟨plain, unmarked⟩, rest⟩

/-- What stands in two strings, without the quotes. -/
structure SameBody (alike : Char → Char → Prop) (body other : Text) : Prop where
  noQuotes : '"' ∉ body ∧ '"' ∉ other
  hidden : List.Forall₂ alike body other

/-- A string is closed in both texts or in neither. -/
theorem same_code_string {first second : Text} (same : SameCode alike true first second) :
    SameBody alike first second ∨
      ∃ body other behind rest, first = body ++ '"' :: behind ∧ second = other ++ '"' :: rest ∧
        SameBody alike body other ∧ SameCode alike false behind rest := by
  generalize start : true = inString at same
  induction same with
  | ends | outside => cases start
  | opened => exact .inl ⟨by simp, .nil⟩
  | quote inString behind =>
      subst start
      exact .inr ⟨[], [], _, _, rfl, rfl, ⟨by simp, .nil⟩, behind⟩
  | @inside c d hidden noQuotes _ _ _ induction =>
      have next {body other : Text} (same : SameBody alike body other) :
          SameBody alike (c :: body) (d :: other) := by
        refine ⟨?_, .cons hidden same.hidden⟩
        simp [noQuotes.1.symm, noQuotes.2.symm, same.noQuotes]
      rcases induction start with opened | ⟨body, other, behind, rest, rfl, rfl, same, closed⟩
      · exact .inl (next opened)
      · exact .inr ⟨_, _, behind, rest, rfl, rfl, next same, closed⟩

/-- A closed string may be exchanged for one that is alike inside. -/
theorem same_code_of_string {body other : Text} (same : SameBody alike body other)
    {behind rest : Text} (closed : SameCode alike false behind rest) :
    SameCode alike false ('"' :: (body ++ '"' :: behind)) ('"' :: (other ++ '"' :: rest)) := by
  obtain ⟨noQuotes, hidden⟩ := same
  refine .quote false ?_
  induction hidden with
  | nil => exact .quote true closed
  | cons head _ induction =>
      simp only [List.mem_cons, not_or] at noQuotes
      obtain ⟨⟨c, clean⟩, d, clean'⟩ := noQuotes
      exact .inside head ⟨Ne.symm c, Ne.symm d⟩ (induction ⟨clean, clean'⟩)

theorem scan_code_ends (column : Nat) {text : Text} (ends : CodeEnds text)
    (unbroken : '\n' ∉ text) : scan column text = some [] := by
  cases ends with
  | text => rw [scan]
  | comment rest => exact scan_comment column fun inside => unbroken (List.mem_cons_of_mem _ inside)

/-- Both texts have tokens, and they are the same but for what is inside strings. -/
def SameTokens (alike : Char → Char → Prop) (column : Nat) (first second : Text) : Prop :=
  ∃ tokens others, scan column first = some tokens ∧ scan column second = some others ∧
    List.Forall₂ (SameToken alike) tokens others

theorem same_tokens_string (column : Nat) {first second : Text}
    (same : SameCode alike true first second) (unbroken : '\n' ∉ first ∧ '\n' ∉ second)
    (later : ∀ column rest rest', rest.length < first.length → SameCode alike false rest rest' →
      '\n' ∉ rest ∧ '\n' ∉ rest' → SameTokens alike column rest rest') :
    SameTokens alike column ('"' :: first) ('"' :: second) := by
  rcases same_code_string same with opened | ⟨body, other, rest, rest', rfl, rfl, same, behind⟩
  · refine ⟨_, _, scan_opened_string column opened.noQuotes.1,
      scan_opened_string column opened.noQuotes.2, .cons ?_ .nil⟩
    simpa using SameToken.string column opened.hidden []
  · simp only [List.mem_cons, List.mem_append, not_or] at unbroken
    obtain ⟨⟨clean, -, cleanRest⟩, clean', -, cleanRest'⟩ := unbroken
    have shorter : rest.length < (body ++ '"' :: rest).length := by
      rw [List.length_append, List.length_cons]
      omega
    obtain ⟨tokens, others, scanned, scanned', alikes⟩ :=
      later (column + (body.length + 2)) rest rest' shorter behind ⟨cleanRest, cleanRest'⟩
    refine ⟨_, _, ?_, ?_, .cons (.string column same.hidden ['"']) alikes⟩
    · rw [scan_closed_string column same.noQuotes.1 clean, scanned, Option.map_some]
    · rw [scan_closed_string column same.noQuotes.2 clean', ← same.hidden.length_eq, scanned',
        Option.map_some]

theorem same_tokens_word (column : Nat) {c : Char} {rest rest' : Text} (gap : isGap c = false)
    (mark : isMark c = false) (noFeed : c ≠ '\n') (same : SameCode alike false rest rest')
    (later : ∀ column more left left', rest = more ++ left → rest' = more ++ left' →
      SameCode alike false left left' → SameTokens alike column left left') :
    SameTokens alike column (c :: rest) (c :: rest') := by
  have noMark : c ≠ '"' ∧ c ≠ '\'' := by simpa [isMark] using mark
  obtain ⟨shown, marked, others, rfl, rfl, unmarked, mark, mark', behind⟩ := same_code_split same
  rcases found : read c (shown ++ marked) with ⟨kind, lexeme⟩
  have found' : read c (shown ++ others) = (kind, lexeme) := by
    rw [read_at_mark noMark.1 mark', ← read_at_mark noMark.1 mark, found]
  rw [SameTokens, scan_token column gap ⟨noMark.2, noFeed⟩ found,
    scan_token column gap ⟨noMark.2, noFeed⟩ found']
  split
  · exact ⟨[], [], rfl, rfl, .nil⟩
  · obtain ⟨-, more, left, rfl, rfl⟩ := read_before_mark noMark.1 mark found
    have remaining : SameCode alike false (left ++ marked) (left ++ others) :=
      same_code_append (fun d member => unmarked d (List.mem_append_right more member)) behind
    obtain ⟨tokens, tokens', scanned, scanned', alikes⟩ :=
      later (columnAfter column (c :: more)) more _ _ (List.append_assoc ..) (List.append_assoc ..)
        remaining
    simp only [List.length_cons, Nat.add_sub_cancel, List.append_assoc, List.drop_left, scanned,
      scanned']
    exact ⟨_, _, rfl, rfl, .cons (.same _) alikes⟩

theorem same_tokens_of_code (column : Nat) {first second : Text}
    (same : SameCode alike false first second) (unbroken : '\n' ∉ first ∧ '\n' ∉ second) :
    SameTokens alike column first second := by
  induction size : first.length using Nat.strong_induction_on generalizing column first second with
  | _ size induction =>
    subst size
    cases same with
    | ends one other =>
        exact ⟨[], [], scan_code_ends column one unbroken.1, scan_code_ends column other unbroken.2,
          .nil⟩
    | quote _ behind =>
        simp only [List.mem_cons, not_or] at unbroken
        refine same_tokens_string column behind ⟨unbroken.1.2, unbroken.2.2⟩ ?_
        intro column rest rest' shorter same clean
        exact induction rest.length (Nat.lt_succ_of_lt shorter) column same clean rfl
    | @outside c shown rest rest' behind =>
        simp only [List.mem_cons, not_or] at unbroken
        obtain ⟨⟨noFeed, clean⟩, -, clean'⟩ := unbroken
        cases gap : isGap c with
        | true =>
            rw [SameTokens, scan_gap column gap, scan_gap column gap]
            exact induction rest.length (Nat.lt_succ_self _) (column + 1) behind ⟨clean, clean'⟩ rfl
        | false =>
            refine same_tokens_word column gap shown (Ne.symm noFeed) behind ?_
            rintro column more left left' rfl rfl same
            simp only [List.mem_append, not_or] at clean clean'
            have shorter : left.length < (c :: (more ++ left)).length := by
              rw [List.length_cons, List.length_append]
              omega
            exact induction left.length shorter column same ⟨clean.2, clean'.2⟩ rfl

/-! A text and its code. -/

theorem same_code_of_code (inString : Bool) (text : Text) :
    SameCode (· = ·) inString text (codeBeforeComment inString text) := by
  induction text generalizing inString with
  | nil =>
      rw [codeBeforeComment]
      cases inString with
      | false => exact .ends .text .text
      | true => exact .opened
  | cons c rest induction =>
      rw [codeBeforeComment]
      split
      · next quote => exact quote ▸ .quote inString (induction _)
      · next noQuote =>
          split
          · next comment =>
              simp only [Bool.and_eq_true, decide_eq_true_eq, Bool.not_eq_true'] at comment
              obtain ⟨rfl, rfl⟩ := comment
              exact .ends (.comment rest) .text
          · next noComment =>
              cases inString with
              | true => exact .inside rfl ⟨noQuote, noQuote⟩ (induction true)
              | false =>
                  exact .outside (by simpa [isMark, noQuote] using noComment) (induction false)

theorem eq_of_same_token {token other : Token} (same : SameToken (· = ·) token other) :
    token = other := by
  cases same with
  | same => rfl
  | string column hidden closing =>
      rw [List.forall₂_eq_eq_eq] at hidden
      rw [hidden]

theorem code_before_comment_front (text : Text) : codeBeforeComment false text <+: text := by
  have part : CodePart 0 text (codeBeforeComment false text) := (code_before_comment_iff ..).mp rfl
  rcases part.ends with whole | ⟨remark, split, -⟩
  · rw [whole]
  · exact ⟨_, split.symm⟩

/-- Comments have no tokens. -/
theorem tokens_of_code (text : Text) (unbroken : '\n' ∉ text) :
    ofText? (codeBeforeComment false text) = ofText? text := by
  have clean : '\n' ∉ codeBeforeComment false text := fun inside =>
    unbroken ((code_before_comment_front text).subset inside)
  obtain ⟨tokens, others, scanned, scanned', same⟩ :=
    same_tokens_of_code 1 (same_code_of_code false text) ⟨unbroken, clean⟩
  have equal := same.imp fun _ _ => eq_of_same_token
  rw [List.forall₂_eq_eq_eq] at equal
  rw [ofText?, ofText?, scanned, scanned', equal]

end BasicBench.Token
