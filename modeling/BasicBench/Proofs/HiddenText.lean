import BasicBench.Proofs.Leading
import BasicBench.Proofs.LineReports
import BasicBench.Proofs.Places
import BasicBench.Proofs.SameCode
import BasicBench.Proofs.SilentLines
import BasicBench.Proofs.Validity

/-!
What stands in strings and comments is hidden from the checks of keywords and parentheses. Two
programs that differ in nothing else have the same keyword findings, and their parentheses are
unmatched on the same lines. These are the lines whose parentheses among the tokens are no balanced
word: on a line that is no code nothing is checked, but it has no parentheses either.
-/

set_option autoImplicit false

namespace BasicBench

open Text Check Keyword

namespace Token

/-- The same code with anything in the strings and behind the apostrophe. -/
abbrev SameShown (first second : Text) : Prop := SameCode (fun _ _ => True) false first second

section Tokens

variable {alike : Char → Char → Prop}

/-- What is told by the tokens that are no strings is told alike. -/
theorem same_tokens_filter_map {Other : Type} {pick : Token → Option Other}
    (blind : ∀ token, token.kind = .string → pick token = none) {tokens others : List Token}
    (same : List.Forall₂ (SameToken alike) tokens others) :
    tokens.filterMap pick = others.filterMap pick := by
  induction same with
  | nil => rfl
  | cons head _ induction =>
      cases head with
      | same token => rw [List.filterMap_cons, List.filterMap_cons, induction]
      | string column hidden closing =>
          rw [List.filterMap_cons_none (blind _ rfl), List.filterMap_cons_none (blind _ rfl),
            induction]

theorem same_tokens_of_lines {first second : Text} (same : SameCode alike false first second)
    (unbroken : '\n' ∉ first ∧ '\n' ∉ second) :
    List.Forall₂ (SameToken alike) (ofLine first) (ofLine second) := by
  obtain ⟨tokens, others, scanned, scanned', alikes⟩ := same_tokens_of_code 1 same unbroken
  rwa [ofLine, ofLine, ofText?, ofText?, scanned, scanned']

theorem names_of_code {first second : Text} (same : SameCode alike false first second)
    (unbroken : '\n' ∉ first ∧ '\n' ∉ second) :
    (ofLine first).filter (·.isName) = (ofLine second).filter (·.isName) := by
  rw [← List.filterMap_eq_filter]
  refine same_tokens_filter_map (fun token string => ?_) (same_tokens_of_lines same unbroken)
  simp [Option.guard, isName, string]

theorem parentheses_of_code {first second : Text} (same : SameCode alike false first second)
    (unbroken : '\n' ∉ first ∧ '\n' ∉ second) :
    parentheses (ofLine first) = parentheses (ofLine second) := by
  refine same_tokens_filter_map (fun token string => ?_) (same_tokens_of_lines same unbroken)
  simp [parenthesis?, string]

/-- Both texts are directives or neither is. -/
theorem directive_of_code {first second : Text} (same : SameCode alike false first second) :
    startsWith ['$'] (trim first) = startsWith ['$'] (trim second) := by
  have solid (c : Char) (rest : Text) (noBlank : isSpace c = false) :
      startsWith ['$'] (trim (c :: rest)) = ('$' == c) := by
    obtain ⟨core, -, -, -, trimmed⟩ := Pattern.trim_cons c rest noBlank
    rw [trimmed, startsWith, List.isPrefixOf, List.isPrefixOf, Bool.and_true]
  have ended {text : Text} (ends : CodeEnds text) : startsWith ['$'] (trim text) = false := by
    cases ends with
    | text => rfl
    | comment rest => rw [solid _ rest (by decide)]; rfl
  generalize start : false = inString at same
  induction same with
  | ends one other => rw [ended one, ended other]
  | opened | inside => cases start
  | quote => rw [solid _ _ (by decide), solid _ _ (by decide)]
  | @outside c shown _ _ behind induction =>
      cases blank : isSpace c with
      | true =>
          have skipped (text : Text) : trim (c :: text) = trim text :=
            trim_append_left [c] text (by simpa [Blank] using blank)
          rw [skipped, skipped, induction start]
      | false => rw [solid c _ blank, solid c _ blank]

end Tokens

end Token

namespace Check

/-! One line. -/

/-- What the keywords of a line report when the line is code. -/
def lineKeywordFindings (catalog : Catalog) (line : SourceLine) : List Finding :=
  if line.isCode then (keywordTokens line).flatMap (tokenFindings catalog line) else []

/-- A line that is no code has no names and no parentheses. -/
theorem silent_of_not_code {line : SourceLine} (unbroken : '\n' ∉ line.text)
    (noCode : line.isCode = false) :
    keywordTokens line = [] ∧ parentheses (Token.ofLine line.text) = [] := by
  have other := line.tokens_of_not_code unbroken noCode
  have names : (Token.ofLine line.text).filter (·.isName) = [] :=
    List.filter_eq_nil_iff.mpr fun token member => by simp [Token.isName, other token member]
  refine ⟨by simp [keywordTokens, names], List.filterMap_eq_nil_iff.mpr fun token member => ?_⟩
  simp [parenthesis?, other token member]

theorem line_keyword_findings_eq (catalog : Catalog) {line : SourceLine}
    (unbroken : '\n' ∉ line.text) :
    lineKeywordFindings catalog line =
      (keywordTokens line).flatMap (tokenFindings catalog line) := by
  rw [lineKeywordFindings]
  split
  · rfl
  · next noCode =>
      rw [(silent_of_not_code unbroken (Bool.not_eq_true _ ▸ noCode)).1, List.flatMap_nil]

/-- Two lines in one place with the same code. -/
structure SameLine (line other : SourceLine) : Prop where
  number : line.number = other.number
  shown : Token.SameShown line.text other.text
  unbroken : '\n' ∉ line.text ∧ '\n' ∉ other.text

theorem keyword_findings_of_line (catalog : Catalog) {line other : SourceLine}
    (same : SameLine line other) :
    lineKeywordFindings catalog line = lineKeywordFindings catalog other := by
  have tokens : keywordTokens line = keywordTokens other := by
    rw [keywordTokens, keywordTokens, SourceLine.trimmed, SourceLine.trimmed,
      Token.names_of_code same.shown same.unbroken, Token.directive_of_code same.shown]
  rw [line_keyword_findings_eq catalog same.unbroken.1,
    line_keyword_findings_eq catalog same.unbroken.2, tokens]
  obtain ⟨number, text⟩ := line
  obtain ⟨_, text'⟩ := other
  obtain rfl := same.number
  rfl

/-! Whole programs. -/

/-- The lines on which unmatched parentheses are reported. -/
def unmatchedLines (level : Level) (isKeyword : Text → Bool) (lines : List SourceLine) : List Nat :=
  (ofCategory "unmatched-parentheses" (lineFindings level isKeyword lines)).map (·.line)

theorem parenthesis_finding_line (line : SourceLine) :
    (parenthesisFindings line).map (·.line) =
      if Balanced (parentheses (Token.ofLine line.text)) then [] else [line.number] := by
  split
  · next balanced => rw [(parenthesis_findings_nil_iff line).mpr balanced, List.map_nil]
  · next open_ =>
      rw [← parenthesis_findings_nil_iff, parenthesisFindings] at open_
      rw [parenthesisFindings]
      split at open_
      · exact absurd rfl open_
      · next unclosed => rw [if_neg unclosed]; rfl

/-- Parentheses are reported on exactly the lines where they are no balanced word. -/
theorem unmatched_lines_eq (level : Level) (isKeyword : Text → Bool) (lines : List SourceLine)
    (unbroken : ∀ line ∈ lines, '\n' ∉ line.text) :
    unmatchedLines level isKeyword lines =
      (lines.filter fun line => ¬Balanced (parentheses (Token.ofLine line.text))).map
        (·.number) := by
  rw [unmatchedLines, of_category_parentheses]
  induction lines with
  | nil => rfl
  | cons line lines induction =>
      rw [List.forall_mem_cons] at unbroken
      have others := induction unbroken.2
      cases code : line.isCode with
      | true =>
          rw [List.filter_cons_of_pos code, List.flatMap_cons, List.map_append, others,
            parenthesis_finding_line]
          by_cases balanced : Balanced (parentheses (Token.ofLine line.text)) <;> simp [balanced]
      | false =>
          have nothing := (silent_of_not_code unbroken.1 code).2
          rw [List.filter_cons_of_neg (by simp [code]), others, List.filter_cons_of_neg]
          rw [nothing]
          simp [Balanced.empty]

/-- Two programs with the same code line by line. -/
def SameProgram (first second : Text) : Prop :=
  List.Forall₂ Token.SameShown (splitLines first) (splitLines second)

theorem same_lines_from (number : Nat) {texts others : List Text}
    (same : List.Forall₂ Token.SameShown texts others)
    (unbroken : (∀ text ∈ texts, '\n' ∉ text) ∧ ∀ text ∈ others, '\n' ∉ text) :
    List.Forall₂ SameLine (SourceLine.numberFrom number texts)
      (SourceLine.numberFrom number others) := by
  induction same generalizing number with
  | nil => exact .nil
  | cons head _ induction =>
      rw [List.forall_mem_cons, List.forall_mem_cons] at unbroken
      exact .cons ⟨rfl, head, unbroken.1.1, unbroken.2.1⟩
        (induction (number + 1) ⟨unbroken.1.2, unbroken.2.2⟩)

theorem same_lines {first second : Text} (same : SameProgram first second) :
    List.Forall₂ SameLine (SourceLine.ofText first) (SourceLine.ofText second) := by
  have unbroken (source : Text) : ∀ text ∈ splitLines source, '\n' ∉ text := fun text member =>
    no_feed_of_unbroken (mem_split_lines_unbroken source text member)
  exact same_lines_from 1 same ⟨unbroken first, unbroken second⟩

theorem keyword_findings_of_lines (catalog : Catalog) {lines others : List SourceLine}
    (same : List.Forall₂ SameLine lines others) :
    keywordFindings catalog lines = keywordFindings catalog others := by
  have listed (lines : List SourceLine) : keywordFindings catalog lines =
      if catalog.isEmpty then [] else lines.flatMap (lineKeywordFindings catalog) := rfl
  have lineByLine : lines.flatMap (lineKeywordFindings catalog) =
      others.flatMap (lineKeywordFindings catalog) := by
    induction same with
    | nil => rfl
    | cons head _ induction =>
        rw [List.flatMap_cons, List.flatMap_cons, keyword_findings_of_line catalog head, induction]
  rw [listed, listed, lineByLine]

theorem unbalanced_of_lines {lines others : List SourceLine}
    (same : List.Forall₂ SameLine lines others) :
    (lines.filter fun line => ¬Balanced (parentheses (Token.ofLine line.text))).map (·.number) =
      (others.filter fun line => ¬Balanced (parentheses (Token.ofLine line.text))).map
        (·.number) := by
  induction same with
  | nil => rfl
  | cons head _ induction =>
      have parentheses := Token.parentheses_of_code head.shown head.unbroken
      rw [List.filter_cons, List.filter_cons, parentheses]
      split
      · rw [List.map_cons, List.map_cons, head.number, induction]
      · exact induction

/-- The checks of keywords and parentheses are blind to strings and comments: programs that differ
in nothing else have the same keyword findings, and their parentheses are unmatched on the same
lines. In any program these are the lines whose parentheses are no balanced word. -/
theorem hidden_text_ignored (catalog : Catalog) (level : Level) (isKeyword : Text → Bool) :
    (∀ first second, SameProgram first second →
      keywordFindings catalog (SourceLine.ofText first) =
        keywordFindings catalog (SourceLine.ofText second) ∧
      unmatchedLines level isKeyword (SourceLine.ofText first) =
        unmatchedLines level isKeyword (SourceLine.ofText second)) ∧
    ∀ source, unmatchedLines level isKeyword (SourceLine.ofText source) =
      ((SourceLine.ofText source).filter fun line =>
        ¬Balanced (parentheses (Token.ofLine line.text))).map (·.number) := by
  have unmatched (source : Text) := unmatched_lines_eq level isKeyword (SourceLine.ofText source)
    fun _ => SourceLine.no_feed_of_text
  refine ⟨fun first second same => ⟨keyword_findings_of_lines catalog (same_lines same), ?_⟩,
    unmatched⟩
  rw [unmatched first, unmatched second]
  exact unbalanced_of_lines (same_lines same)

/-- A parenthesis that is not closed, with a string and a keyword behind it and a comment. -/
def openCall (string comment : String) : Text :=
  "PRINT (".toList ++ '"' :: (string.toList ++ '"' :: (" + TRON ".toList ++ '\'' :: comment.toList))

theorem open_call_same :
    SameProgram (openCall "it's ) REM" " \" ((") (openCall "TRON '' ()" "TRON(") := by
  have front : Token.Unmarked "PRINT (".toList := by simp [Token.Unmarked, Token.isMark]
  have between : Token.Unmarked " + TRON ".toList := by simp [Token.Unmarked, Token.isMark]
  have body : Token.SameBody (fun _ _ => True) "it's ) REM".toList "TRON '' ()".toList :=
    ⟨by decide, by repeat constructor⟩
  have behind : Token.SameShown (" + TRON ".toList ++ '\'' :: " \" ((".toList)
      (" + TRON ".toList ++ '\'' :: "TRON(".toList) :=
    Token.same_code_append between (.ends (.comment _) (.comment _))
  exact .cons (Token.same_code_append front (Token.same_code_of_string body behind)) .nil

/-- An apostrophe, a parenthesis, `REM` and a keyword make no difference inside the string, and
neither do a quote and parentheses in the comment. -/
theorem open_call_findings :
    SameProgram (openCall "it's ) REM" " \" ((") (openCall "TRON '' ()" "TRON(") ∧
      keywordFindings tracingOnly (SourceLine.ofText (openCall "it's ) REM" " \" ((")) =
        keywordFindings tracingOnly (SourceLine.ofText (openCall "TRON '' ()" "TRON(")) ∧
      (keywordFindings tracingOnly (SourceLine.ofText (openCall "TRON '' ()" "TRON("))).map
        (·.column) = [23] ∧
      unmatchedLines .basic tracingOnly.has (SourceLine.ofText (openCall "it's ) REM" " \" ((")) =
        [1] := by
  obtain ⟨hidden, unmatched⟩ := hidden_text_ignored tracingOnly .basic tracingOnly.has
  have same := open_call_same
  refine ⟨same, (hidden _ _ same).1, by decide +kernel, ?_⟩
  rw [unmatched]
  decide +kernel

end Check
end BasicBench
