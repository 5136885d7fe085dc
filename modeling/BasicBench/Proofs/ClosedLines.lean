import BasicBench.Proofs.Lexemes
import BasicBench.Proofs.LineBrackets
import BasicBench.Proofs.Places
import BasicBench.Proofs.SupportLines

/-!
Lines whose quotes and parentheses are closed, whatever is filled into them: indentation adds
neither, a number has none, and what is filled in between two quotes is read as one string.
-/

set_option autoImplicit false

namespace BasicBench.Check

open Text

/-- The parentheses of a text whose first character stands in `column`. -/
def parenthesesFrom (column : Nat) (text : Text) : Option (List (Bracket Unit)) :=
  (Token.scan column text).map parentheses

/-- The parenthesis that a token is, at most one. -/
def parenthesesOf (kind : TokenKind) (lexeme : Text) : List (Bracket Unit) :=
  (parenthesis? ⟨kind, lexeme, 1⟩).toList

theorem parentheses_cons (kind : TokenKind) (lexeme : Text) (column : Nat) (tokens : List Token) :
    parentheses (⟨kind, lexeme, column⟩ :: tokens) =
      parenthesesOf kind lexeme ++ parentheses tokens := by
  have same : parenthesis? ⟨kind, lexeme, column⟩ = parenthesis? ⟨kind, lexeme, 1⟩ := rfl
  rw [parenthesesOf, ← same]
  cases read : parenthesis? ⟨kind, lexeme, column⟩ with
  | none => exact parentheses_cons_none read tokens
  | some bracket => exact parentheses_cons_some read tokens

theorem parentheses_map_cons (kind : TokenKind) (lexeme : Text) (column : Nat)
    (scanned : Option (List Token)) :
    (scanned.map (⟨kind, lexeme, column⟩ :: ·)).map parentheses =
      (scanned.map parentheses).map (parenthesesOf kind lexeme ++ ·) := by
  rw [Option.map_map, Option.map_map]
  congr 1
  funext tokens
  exact parentheses_cons kind lexeme column tokens

/-- Where a text begins makes no difference to its parentheses. -/
theorem parentheses_from_any (first second : Nat) (text : Text) :
    parenthesesFrom first text = parenthesesFrom second text := by
  unfold parenthesesFrom
  fun_induction Token.scan first text generalizing second with
  | case1 column => rw [Token.scan]
  | case2 column c rest blank induction => rw [Token.scan, if_pos blank, induction]
  | case3 column rest blank induction => rw [Token.scan, if_neg blank, if_pos rfl, induction]
  | case4 column rest blank remark => rw [Token.scan, if_neg blank, if_neg remark, if_pos rfl]
  | case5 column c rest blank remark feed kind lexeme read word =>
      rw [Token.scan, if_neg blank, if_neg remark, if_neg feed, read]
      simp [word]
  | case6 column c rest blank remark feed kind lexeme read word induction =>
      rw [Token.scan, if_neg blank, if_neg remark, if_neg feed, read]
      simp only []
      rw [if_neg word, parentheses_map_cons, parentheses_map_cons,
        induction (Token.columnAfter second lexeme)]

/-- A token that is no remark adds its own parenthesis to those behind it. -/
theorem parentheses_from_token {c : Char} {rest lexeme : Text} {kind : TokenKind} (column : Nat)
    (solid : c ∉ [' ', '\t', '\'', '\n']) (read : Token.read c rest = (kind, lexeme))
    (word : Token.isRemark kind lexeme = false) :
    parenthesesFrom column (c :: rest) =
      (parenthesesFrom column (rest.drop (lexeme.length - 1))).map
        (parenthesesOf kind lexeme ++ ·) := by
  simp only [List.mem_cons, List.not_mem_nil, or_false, not_or] at solid
  obtain ⟨noBlank, noTab, noRemark, noFeed⟩ := solid
  rw [parenthesesFrom, Token.scan, if_neg (by simp [noBlank, noTab]), if_neg noRemark,
    if_neg noFeed, read]
  simp only []
  rw [word, if_neg (by decide), parentheses_map_cons,
    parentheses_from_any column (Token.columnAfter column lexeme), parenthesesFrom]

theorem parentheses_from_blanks (column : Nat) (left text : Text) (blank : Blank left)
    (unbroken : '\n' ∉ left) :
    parenthesesFrom column (left ++ text) = parenthesesFrom column text := by
  obtain ⟨blanks, others, scanned⟩ := Token.scan_blanks blank unbroken column text
  have nothing : parentheses blanks = [] :=
    List.filterMap_eq_nil_iff.mpr fun token member => by simp [parenthesis?, others token member]
  rw [parentheses_from_any column (column + left.length) text, parenthesesFrom, scanned,
    parenthesesFrom, Option.map_map]
  congr 1
  funext tokens
  rw [Function.comp_apply, parentheses, List.filterMap_append, ← parentheses, nothing,
    List.nil_append, parentheses]

theorem lexeme_of_punctuation {c : Char} {rest lexeme : Text}
    (read : Token.read c rest = (.punctuation, lexeme)) : lexeme = [c] := by
  unfold Token.read at read
  repeat' split at read
  all_goals first
    | exact (Prod.mk.inj read).2.symm
    | cases read

theorem parentheses_of_read {c : Char} {rest lexeme : Text} {kind : TokenKind}
    (plain : c ≠ '(' ∧ c ≠ ')') (read : Token.read c rest = (kind, lexeme)) :
    parenthesesOf kind lexeme = [] := by
  by_cases punctuation : kind = .punctuation
  · subst punctuation
    obtain rfl := lexeme_of_punctuation read
    simp [parenthesesOf, parenthesis?, plain]
  · simp [parenthesesOf, parenthesis?, punctuation]

/-- A text without parentheses, read from anywhere. -/
theorem parentheses_from_plain (column : Nat) (text : Text)
    (plain : '(' ∉ text ∧ ')' ∉ text) :
    (parenthesesFrom column text).getD [] = [] := by
  unfold parenthesesFrom
  have behind {part : Text} (inside : part ⊆ text) : '(' ∉ part ∧ ')' ∉ part :=
    ⟨fun member => plain.1 (inside member), fun member => plain.2 (inside member)⟩
  fun_induction Token.scan column text with
  | case1 | case4 | case5 => rfl
  | case2 column c rest _ induction =>
      exact induction (behind (List.subset_cons_self ..)) fun inside =>
        behind (List.Subset.trans inside (List.subset_cons_self ..))
  | case3 column rest _ induction =>
      have inside : rest.dropWhile (· != '\n') ⊆ '\'' :: rest :=
        List.Subset.trans (List.dropWhile_suffix _).subset (List.subset_cons_self ..)
      exact induction (behind inside) fun within => behind (List.Subset.trans within inside)
  | case6 column c rest _ _ _ kind lexeme read _ induction =>
      have inside : rest.drop (lexeme.length - 1) ⊆ c :: rest :=
        List.Subset.trans (List.drop_subset ..) (List.subset_cons_self ..)
      have others := induction (behind inside) fun within =>
        behind (List.Subset.trans within inside)
      have noParenthesis : c ≠ '(' ∧ c ≠ ')' := by
        refine ⟨?_, ?_⟩
        · rintro rfl
          exact plain.1 List.mem_cons_self
        · rintro rfl
          exact plain.2 List.mem_cons_self
      rw [parentheses_map_cons, parentheses_of_read noParenthesis read]
      simp only [List.nil_append, Option.map_id_fun', id_eq]
      exact others

/-! Whole lines. -/

theorem line_closed_text_iff (text : Text) :
    LineClosed text ↔ Even ((codeBeforeComment false text).count '"') ∧
      Balanced ((parenthesesFrom 1 text).getD []) := by
  have tokens : parentheses (Token.ofLine text) = (parenthesesFrom 1 text).getD [] := by
    rw [Token.ofLine, Token.ofText?, parenthesesFrom]
    cases Token.scan 1 text <;> rfl
  have quotes : QuotesClosed text ↔ Even ((codeBeforeComment false text).count '"') :=
    quotes_closed_iff ⟨0, text⟩
  rw [← quotes, ← tokens]
  exact ⟨fun closed => ⟨closed.quotes, closed.parentheses⟩, fun both => ⟨both.1, both.2⟩⟩

theorem code_behind_plain (left text : Text) (plain : '"' ∉ left ∧ '\'' ∉ left) :
    codeBeforeComment false (left ++ text) = left ++ codeBeforeComment false text := by
  induction left with
  | nil => rfl
  | cons c left induction =>
      simp only [List.mem_cons, not_or] at plain
      obtain ⟨⟨noQuote, quotes⟩, noRemark, remarks⟩ := plain
      rw [List.cons_append, codeBeforeComment, if_neg (Ne.symm noQuote),
        if_neg (by simp [Ne.symm noRemark]), induction ⟨quotes, remarks⟩, List.cons_append]

/-- Indentation closes nothing and opens nothing. -/
theorem line_closed_indent (left text : Text) (blank : Blank left) (unbroken : '\n' ∉ left) :
    LineClosed (left ++ text) ↔ LineClosed text := by
  have absent (c : Char) (solid : isSpace c = false) : c ∉ left := by
    intro member
    rw [blank c member] at solid
    cases solid
  have plain : '"' ∉ left ∧ '\'' ∉ left := ⟨absent '"' (by decide), absent '\'' (by decide)⟩
  rw [line_closed_text_iff, line_closed_text_iff, code_behind_plain left text plain,
    List.count_append, List.count_eq_zero_of_not_mem plain.1, Nat.zero_add,
    parentheses_from_blanks 1 left text blank unbroken]

theorem line_closed_of_plain {text : Text} (quotes : '"' ∉ text ∧ '\'' ∉ text)
    (plain : '(' ∉ text ∧ ')' ∉ text) : LineClosed text := by
  have code := code_behind_plain text [] quotes
  rw [List.append_nil, codeBeforeComment, List.append_nil] at code
  rw [line_closed_text_iff, code, List.count_eq_zero_of_not_mem quotes.1,
    parentheses_from_plain 1 text plain]
  exact ⟨Even.zero, .empty⟩

/-! Strings that are filled in. -/

/-- Inside a string an apostrophe opens no remark. -/
theorem code_inside (body rest : Text) (noQuote : '"' ∉ body) :
    codeBeforeComment true (body ++ rest) = body ++ codeBeforeComment true rest := by
  induction body with
  | nil => rfl
  | cons c body induction =>
      simp only [List.mem_cons, not_or] at noQuote
      rw [List.cons_append, codeBeforeComment, if_neg (Ne.symm noQuote.1), Bool.not_true,
        Bool.and_false, if_neg (by decide), induction noQuote.2, List.cons_append]

theorem parentheses_from_string (column : Nat) (filled : Text) (closed : '"' ∉ filled) :
    parenthesesFrom column ('"' :: (filled ++ ['"'])) = some [] := by
  have read : Token.read '"' (filled ++ ['"']) = (.string, '"' :: (filled ++ ['"'])) := by
    rw [Token.read_string, Token.string_tail_closed closed]
  rw [parentheses_from_token column (by decide) read rfl, List.length_cons, Nat.add_sub_cancel,
    List.drop_length, parenthesesFrom, Token.scan]
  rfl

theorem parentheses_from_space (column : Nat) (text : Text) :
    parenthesesFrom column (' ' :: text) = parenthesesFrom column text :=
  parentheses_from_blanks column [' '] text (List.all_eq_true.mp (by decide)) (by simp)

/-- A name in front of a blank. -/
structure StandsAlone (c : Char) (others : Text) : Prop where
  solid : c ∉ [' ', '\t', '\'', '\n']
  read : ∀ rest, Token.read c (others ++ ' ' :: rest) = (.name, c :: others)
  word : Token.isRemark .name (c :: others) = false
  plain : '"' ∉ c :: others ∧ '\'' ∉ c :: others

theorem parentheses_from_name {c : Char} {others : Text} (name : StandsAlone c others)
    (column : Nat) (rest : Text) :
    parenthesesFrom column (c :: others ++ ' ' :: rest) = parenthesesFrom column rest := by
  rw [List.cons_append, parentheses_from_token column name.solid (name.read rest) name.word,
    List.length_cons, Nat.add_sub_cancel, List.drop_left, parentheses_from_space]
  simp [parenthesesOf, parenthesis?]

/-- A line that sets a variable to a string is closed, whatever the string is. -/
theorem line_closed_of_setting {left : Text} (blank : Blank left) (unbroken : '\n' ∉ left)
    {c : Char} {others : Text} (name : StandsAlone c others) (filled : Text)
    (closed : '"' ∉ filled) :
    LineClosed (left ++ (c :: others ++ (" = ".toList ++ '"' :: (filled ++ ['"'])))) := by
  have front : '"' ∉ c :: others ++ " = ".toList ∧ '\'' ∉ c :: others ++ " = ".toList := by
    simp only [List.mem_append, not_or]
    exact ⟨⟨name.plain.1, by decide⟩, name.plain.2, by decide⟩
  have code : codeBeforeComment false (c :: others ++ (" = ".toList ++ '"' :: (filled ++ ['"']))) =
      c :: others ++ " = ".toList ++ '"' :: (filled ++ ['"']) := by
    rw [← List.append_assoc, code_behind_plain _ _ front, codeBeforeComment, if_pos rfl,
      Bool.not_false, code_inside filled _ closed]
    rfl
  have quotes : (c :: others ++ " = ".toList ++ '"' :: (filled ++ ['"'])).count '"' = 2 := by
    rw [List.count_append, List.count_eq_zero_of_not_mem front.1]
    simp [List.count_eq_zero_of_not_mem closed]
  have equals : Token.read '=' (' ' :: '"' :: (filled ++ ['"'])) = (.operator, ['=']) := rfl
  have tokens : parenthesesFrom 1 (c :: others ++ (" = ".toList ++ '"' :: (filled ++ ['"']))) =
      some [] := by
    change parenthesesFrom 1 (c :: others ++ ' ' :: '=' :: ' ' :: '"' :: (filled ++ ['"'])) = _
    rw [parentheses_from_name name, parentheses_from_token 1 (by decide) equals rfl]
    change (parenthesesFrom 1 (' ' :: '"' :: (filled ++ ['"']))).map _ = _
    rw [parentheses_from_space, parentheses_from_string 1 filled closed]
    rfl
  rw [line_closed_indent _ _ blank unbroken, line_closed_text_iff, code, quotes, tokens]
  exact ⟨by decide, .empty⟩

end BasicBench.Check
