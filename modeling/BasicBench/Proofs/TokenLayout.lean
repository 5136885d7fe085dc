import BasicBench.Proofs.SameCode

/-!
How tokens lie in a text. They follow each other from left to right with nothing but blanks between
them, and each is the piece of the text at its column. Behind the last one the text ends, or a
comment or a remark does not count.
-/

set_option autoImplicit false

namespace BasicBench.Token

open Text Check

/-- Only blanks that part tokens. -/
abbrev Gap (text : Text) : Prop := ∀ c ∈ text, isGap c = true

/-- What may stand behind the last token: nothing, a comment behind an apostrophe, or a remark
behind a name that is the word `REM` in either case. -/
inductive EndsTokens : Text → Prop
  | nothing : EndsTokens []
  | comment (rest : Text) : EndsTokens ('\'' :: rest)
  | remark {word rest : Text} (name : name? (word ++ rest) = some word)
      (spelled : upper word = "REM".toList) : EndsTokens (word ++ rest)

/-- A string reaches to the next quote or, when there is none, to the end of the text. No other
token has a quote or an apostrophe in it. -/
structure Formed (token : Token) (behind : Text) : Prop where
  nonempty : token.text ≠ []
  string : token.kind = .string → ∃ body, '"' ∉ body ∧
    (token.text = '"' :: (body ++ ['"']) ∨ token.text = '"' :: body ∧ behind = [])
  unmarked : token.kind ≠ .string → Unmarked token.text

/-- A text that starts in `column` is made of these tokens, each at its column, of blanks between
them, and of a tail that has no tokens. -/
inductive LaidOut : Nat → Text → List Token → Text → Prop
  | tail {column : Nat} {gap tail : Text} (blank : Gap gap) (ends : EndsTokens tail) :
      LaidOut column (gap ++ tail) [] tail
  | token {column : Nat} {gap behind tail : Text} {token : Token} {tokens : List Token}
      (blank : Gap gap) (place : token.column = column + gap.length) (formed : Formed token behind)
      (others : LaidOut (token.column + token.text.length) behind tokens tail) :
      LaidOut column (gap ++ (token.text ++ behind)) (token :: tokens) tail

theorem laid_out_gap {column : Nat} {c : Char} {text tail : Text} {tokens : List Token}
    (blank : isGap c = true) (laid : LaidOut (column + 1) text tokens tail) :
    LaidOut column (c :: text) tokens tail := by
  cases laid with
  | tail others ends => exact .tail (List.forall_mem_cons.mpr ⟨blank, others⟩) ends
  | token others place formed laid =>
      refine .token (List.forall_mem_cons.mpr ⟨blank, others⟩) ?_ formed laid
      rw [place, List.length_cons]
      omega

/-- Every token that is read is well formed and a piece of the text in front. -/
theorem formed_of_read {c : Char} {rest lexeme : Text} {kind : TokenKind} (column : Nat)
    (noRemark : c ≠ '\'') (found : read c rest = (kind, lexeme)) :
    ∃ behind, c :: rest = lexeme ++ behind ∧ rest.drop (lexeme.length - 1) = behind ∧
      Formed ⟨kind, lexeme, column⟩ behind := by
  by_cases quote : c = '"'
  · subst quote
    rw [read_string, Prod.mk.injEq] at found
    obtain ⟨rfl, rfl⟩ := found
    by_cases closed : '"' ∈ rest
    · obtain ⟨body, behind, rfl, inside⟩ := List.eq_append_cons_of_mem closed
      rw [string_tail_closed inside]
      exact ⟨behind, by simp, by simp, List.cons_ne_nil _ _, fun _ => ⟨body, inside, .inl rfl⟩,
        fun other => absurd rfl other⟩
    · rw [string_tail_opened closed]
      exact ⟨[], by simp, by simp, List.cons_ne_nil _ _, fun _ => ⟨rest, closed, .inr ⟨rfl, rfl⟩⟩,
        fun other => absurd rfl other⟩
  · obtain ⟨shown, marked, rfl, unmarked, mark⟩ := split_at_mark rest
    obtain ⟨plain, more, left, rfl, rfl⟩ := read_before_mark quote mark found
    refine ⟨left ++ marked, by simp, by simp, List.cons_ne_nil _ _, fun other => absurd other plain,
      fun _ => List.forall_mem_cons.mpr ⟨by simp [isMark, quote, noRemark], fun d member => ?_⟩⟩
    exact unmarked d (List.mem_append_left left member)

theorem name_of_read {c : Char} {rest lexeme : Text} (found : read c rest = (.name, lexeme)) :
    name? (c :: rest) = some lexeme ∨ ∃ more, lexeme = '$' :: more := by
  rw [read] at found
  split at found
  · cases found
  split at found
  · cases found
  split at found
  · cases found
  split at found
  · next name => exact .inl (name.trans (congrArg some (Prod.mk.inj found).2))
  split at found
  · next name =>
      split at name
      · next dollar => exact .inr ⟨_, dollar ▸ (Prod.mk.inj found).2.symm⟩
      · cases name
  split at found
  · cases found
  split at found <;> cases found

/-- The name that ends the tokens of a text. -/
theorem remark_of_read {c : Char} {rest lexeme : Text} {kind : TokenKind}
    (found : read c rest = (kind, lexeme)) (remark : isRemark kind lexeme = true) :
    name? (c :: rest) = some lexeme ∧ upper lexeme = "REM".toList := by
  simp only [isRemark, Bool.and_eq_true, decide_eq_true_eq, beq_iff_eq] at remark
  obtain ⟨rfl, spelled⟩ := remark
  rcases name_of_read found with name | ⟨more, rfl⟩
  · exact ⟨name, spelled⟩
  · have dollar : upperChar '$' = ['$'] := by decide
    exact absurd (congrArg List.head? spelled) (by simp [upper, dollar])

theorem laid_out_tail (column : Nat) {tail : Text} (ends : EndsTokens tail) :
    LaidOut column tail [] tail := by
  have laid : LaidOut column ([] ++ tail) [] tail := .tail (List.forall_mem_nil _) ends
  exact laid

theorem laid_out_token {column : Nat} {kind : TokenKind} {lexeme behind tail : Text}
    {tokens : List Token} (formed : Formed ⟨kind, lexeme, column⟩ behind)
    (others : LaidOut (column + lexeme.length) behind tokens tail) :
    LaidOut column (lexeme ++ behind) (⟨kind, lexeme, column⟩ :: tokens) tail := by
  have laid : LaidOut column ([] ++ (lexeme ++ behind)) (⟨kind, lexeme, column⟩ :: tokens) tail :=
    .token (List.forall_mem_nil _) (Nat.add_zero column).symm formed others
  exact laid

/-- The tokens of a text without line feeds account for every character of it. -/
theorem scan_laid_out (column : Nat) (text : Text) (unbroken : '\n' ∉ text) :
    ∃ tokens tail, scan column text = some tokens ∧ LaidOut column text tokens tail := by
  fun_induction scan column text with
  | case1 column => exact ⟨[], [], rfl, laid_out_tail column .nothing⟩
  | case2 column c rest blank induction =>
      obtain ⟨tokens, tail, scanned, laid⟩ := induction fun inside =>
        unbroken (List.mem_cons_of_mem c inside)
      exact ⟨tokens, tail, scanned, laid_out_gap (by simpa [isGap] using blank) laid⟩
  | case3 column rest _ _ =>
      have scanned := scan_comment column fun inside => unbroken (List.mem_cons_of_mem _ inside)
      rw [scan, if_neg (by decide), if_pos rfl] at scanned
      exact ⟨[], '\'' :: rest, scanned, laid_out_tail column (.comment rest)⟩
  | case4 => simp at unbroken
  | case5 column c rest _ noRemark _ kind lexeme found word =>
      obtain ⟨behind, split, -, -⟩ := formed_of_read column noRemark found
      obtain ⟨name, spelled⟩ := remark_of_read found word
      rw [split] at name ⊢
      exact ⟨[], _, rfl, laid_out_tail column (.remark name spelled)⟩
  | case6 column c rest _ noRemark _ kind lexeme found _ induction =>
      obtain ⟨behind, split, dropped, formed⟩ := formed_of_read column noRemark found
      have whole : '\n' ∉ lexeme ∧ '\n' ∉ behind := by
        rwa [split, List.mem_append, not_or] at unbroken
      rw [dropped] at induction ⊢
      obtain ⟨tokens, tail, scanned, laid⟩ := induction whole.2
      rw [column_after_unbroken column whole.1] at scanned laid ⊢
      rw [scanned, split]
      exact ⟨_, tail, rfl, laid_out_token formed laid⟩

/-- The tokens stand at their columns, one behind the other. -/
theorem laid_out_places {column : Nat} {text tail : Text} {tokens : List Token}
    (laid : LaidOut column text tokens tail) :
    (∀ token ∈ tokens, column ≤ token.column ∧ token.text <+: text.drop (token.column - column)) ∧
      tokens.Pairwise fun first second => first.column + first.text.length ≤ second.column := by
  induction laid with
  | tail => exact ⟨List.forall_mem_nil _, .nil⟩
  | @token column gap behind tail token tokens blank place formed others induction =>
      obtain ⟨places, apart⟩ := induction
      refine ⟨List.forall_mem_cons.mpr ⟨⟨by omega, ?_⟩, fun later member => ?_⟩,
        .cons (fun later member => (places later member).1) apart⟩
      · rw [place, Nat.add_sub_cancel_left, List.drop_left]
        exact List.prefix_append ..
      · obtain ⟨after, stands⟩ := places later member
        refine ⟨by omega, ?_⟩
        rw [List.drop_append, List.drop_eq_nil_of_le (by omega), List.nil_append, List.drop_append,
          List.drop_eq_nil_of_le (by omega), List.nil_append]
        rwa [show later.column - column - gap.length - token.text.length =
          later.column - (token.column + token.text.length) by omega]

theorem laid_out_formed {column : Nat} {text tail : Text} {tokens : List Token}
    (laid : LaidOut column text tokens tail) : ∀ token ∈ tokens, ∃ behind, Formed token behind := by
  induction laid with
  | tail => exact List.forall_mem_nil _
  | token _ _ formed _ induction => exact List.forall_mem_cons.mpr ⟨⟨_, formed⟩, induction⟩

theorem laid_out_ends {column : Nat} {text tail : Text} {tokens : List Token}
    (laid : LaidOut column text tokens tail) : EndsTokens tail := by
  induction laid with
  | tail _ ends => exact ends
  | token _ _ _ _ induction => exact induction

/-- What stands behind the last token and the blanks after it. -/
def unread (text : Text) : Text :=
  let stop := (ofLine text).getLast?.map fun token => token.column - 1 + token.text.length
  (text.drop (stop.getD 0)).dropWhile isGap

theorem drop_gap_ends {tail : Text} (ends : EndsTokens tail) : tail.dropWhile isGap = tail := by
  cases ends with
  | nothing => rfl
  | comment => rfl
  | @remark word rest name _ =>
      cases shape : word ++ rest with
      | nil => rfl
      | cons c others =>
          have noGap : isGap c = false := by
            by_contra gap
            simp only [isGap, Bool.not_eq_false, Bool.or_eq_true, beq_iff_eq] at gap
            rw [shape] at name
            rcases gap with rfl | rfl <;> cases name
          exact List.dropWhile_cons_of_neg (by simp [noGap])

theorem laid_out_behind {column : Nat} {text tail : Text} {tokens : List Token}
    (laid : LaidOut column text tokens tail) :
    (text.drop ((tokens.getLast?.map fun token =>
      token.column - column + token.text.length).getD 0)).dropWhile isGap = tail := by
  induction laid with
  | tail blank ends =>
      rw [List.getLast?_nil, Option.map_none, Option.getD_none, List.drop_zero,
        List.dropWhile_append_of_pos blank, drop_gap_ends ends]
  | @token column gap behind tail token tokens blank place formed others induction =>
      have after (more : Nat) : (gap ++ (token.text ++ behind)).drop
          (gap.length + token.text.length + more) = behind.drop more := by
        rw [← List.append_assoc, ← List.length_append, List.drop_append, List.drop_eq_nil_of_le
          (by omega), Nat.add_sub_cancel_left, List.nil_append]
      rw [← induction]
      congr 1
      cases last : tokens.getLast? with
      | none =>
          obtain rfl := List.getLast?_eq_none_iff.mp last
          simp [place]
      | some final =>
          have member := List.mem_of_getLast? last
          have place' := ((laid_out_places others).1 final member).1
          have stop := after (final.column - (token.column + token.text.length) + final.text.length)
          rw [List.getLast?_cons, last]
          simp only [Option.getD_some, Option.map_some]
          rw [← stop]
          congr 1
          omega

theorem laid_out_of_line (text : Text) (unbroken : '\n' ∉ text) :
    ofText? text = some (ofLine text) ∧ LaidOut 1 text (ofLine text) (unread text) := by
  obtain ⟨tokens, tail, scanned, laid⟩ := scan_laid_out 1 text unbroken
  have tokenized : ofLine text = tokens := by rw [ofLine, ofText?, scanned, Option.getD_some]
  have behind : unread text = tail := by
    rw [unread, tokenized]
    exact laid_out_behind laid
  rw [tokenized, behind]
  exact ⟨scanned, laid⟩

/-- The tokens of a text without line feeds have none either. -/
theorem unbroken_of_mem {text : Text} (unbroken : '\n' ∉ text) {token : Token}
    (member : token ∈ ofLine text) : '\n' ∉ token.text := by
  have places := (laid_out_places (laid_out_of_line text unbroken).2).1
  exact fun feed => unbroken (List.drop_subset _ _ ((places token member).2.subset feed))

/-- A text on one line always has tokens, and nothing of it is lost: the tokens stand at their
columns one behind the other, with only blanks between them, and behind the last one stands nothing,
a comment or a remark. A string has no quote inside, and the comment has no say in the tokens. -/
theorem tokens_lossless (text : Text) (unbroken : '\n' ∉ text) :
    ∃ tokens, ofText? text = some tokens ∧ LaidOut 1 text tokens (unread text) ∧
      EndsTokens (unread text) ∧
      (tokens.Pairwise fun first second => first.column + first.text.length ≤ second.column) ∧
      (∀ token ∈ tokens, 1 ≤ token.column ∧ token.text ≠ [] ∧
        token.text <+: text.drop (token.column - 1)) ∧
      (∀ token ∈ tokens, token.kind = .string → ∃ body, '"' ∉ body ∧
        (token.text = '"' :: body ∨ token.text = '"' :: (body ++ ['"']))) ∧
      ofText? (codeBeforeComment false text) = some tokens := by
  obtain ⟨tokenized, laid⟩ := laid_out_of_line text unbroken
  obtain ⟨places, apart⟩ := laid_out_places laid
  refine ⟨ofLine text, tokenized, laid, laid_out_ends laid, apart, fun token member => ?_,
    fun token member string => ?_, (tokens_of_code text unbroken).trans tokenized⟩
  · obtain ⟨_, formed⟩ := laid_out_formed laid token member
    exact ⟨(places token member).1, formed.nonempty, (places token member).2⟩
  · obtain ⟨_, formed⟩ := laid_out_formed laid token member
    obtain ⟨body, inside, closed | ⟨opened, -⟩⟩ := formed.string string
    · exact ⟨body, inside, .inr closed⟩
    · exact ⟨body, inside, .inl opened⟩

/-- An apostrophe in a string, an exponent without digits, and a quote behind `rem`. -/
def remarkedLine : Text := "10 x$=\"it's\":y=1E+\t:rem 5\" wide".toList

theorem remarked_line_lossless :
    '\n' ∉ remarkedLine ∧ unread remarkedLine = "rem 5\" wide".toList ∧
      ∃ tokens, ofText? remarkedLine = some tokens ∧ tokens.length = 11 ∧
        LaidOut 1 remarkedLine tokens (unread remarkedLine) := by
  have unbroken : '\n' ∉ remarkedLine := by decide
  obtain ⟨tokens, found, laid, -⟩ := tokens_lossless remarkedLine unbroken
  have many : (ofText? remarkedLine).map (·.length) = some 11 := by decide +kernel
  rw [found, Option.map_some, Option.some.injEq] at many
  exact ⟨unbroken, by decide +kernel, tokens, found, many, laid⟩

end BasicBench.Token
