import BasicBench.Proofs.ClosedLines
import BasicBench.Proofs.LineReports
import BasicBench.Proofs.TokenLayout

/-!
Open strings and unmatched quotes. A string that is not closed is the last token of its line and
the last quote of its code, and there is one exactly when the number of quotes in front of the
remark is odd. But a remark behind `REM` has no tokens, and its quotes are counted all the same. So
the two ways of finding an open string agree as long as the quotes of the remark come in pairs.
-/

set_option autoImplicit false

namespace BasicBench

open Text Check

/-! Texts that leave nothing open. -/

namespace Check

/-- A text that opens no remark and closes its strings, so the code goes on behind it. -/
structure Passable (front : Text) : Prop where
  quotes : Even (front.count '"')
  code : ∀ rest, codeBeforeComment false (front ++ rest) = front ++ codeBeforeComment false rest

theorem passable_append {front next : Text} (first : Passable front) (second : Passable next) :
    Passable (front ++ next) where
  quotes := by
    rw [List.count_append]
    exact first.quotes.add second.quotes
  code rest := by rw [List.append_assoc, first.code, second.code, List.append_assoc]

theorem passable_of_unmarked {front : Text} (unmarked : Token.Unmarked front) : Passable front := by
  have absent {c : Char} (mark : Token.isMark c = true) : c ∉ front := fun inside =>
    Bool.false_ne_true ((unmarked c inside).symm.trans mark)
  have plain : '"' ∉ front ∧ '\'' ∉ front := ⟨absent (by decide), absent (by decide)⟩
  refine ⟨?_, fun rest => code_behind_plain front rest plain⟩
  rw [List.count_eq_zero_of_not_mem plain.1]
  exact Even.zero

theorem passable_string {body : Text} (noQuote : '"' ∉ body) :
    Passable ('"' :: (body ++ ['"'])) where
  quotes := by
    rw [List.count_cons_self, List.count_append, List.count_eq_zero_of_not_mem noQuote]
    decide
  code rest := by
    rw [List.cons_append, codeBeforeComment, if_pos rfl, List.append_assoc, Bool.not_false,
      code_inside body _ noQuote, List.cons_append, codeBeforeComment, if_pos rfl]
    simp

end Check

namespace Token

/-- A string that is not closed: a quote by itself, or a text without a quote at its end. -/
def isOpenString (token : Token) : Bool :=
  token.kind = .string && (token.text == ['"'] || token.text.getLast? != some '"')

/-- A token leaves its string open, and the text ends with it, or the code goes on behind it. -/
theorem formed_cases {token : Token} {behind : Text} (formed : Formed token behind) :
    (token.isOpenString = true ∧ behind = [] ∧ ∃ body, '"' ∉ body ∧ token.text = '"' :: body) ∨
      token.isOpenString = false ∧ Passable token.text := by
  by_cases string : token.kind = .string
  · obtain ⟨body, noQuote, closed | ⟨opened, stops⟩⟩ := formed.string string
    · refine .inr ⟨?_, closed ▸ passable_string noQuote⟩
      have last : ('"' :: (body ++ ['"'])).getLast? = some '"' := by
        rw [← List.cons_append, List.getLast?_concat]
      simp [isOpenString, closed, last]
    · refine .inl ⟨?_, stops, body, noQuote, opened⟩
      have unclosed : body = [] ∨ ('"' :: body).getLast? ≠ some '"' := by
        rcases List.eq_nil_or_concat body with rfl | ⟨front, last, rfl⟩
        · exact .inl rfl
        · refine .inr ?_
          rw [List.concat_eq_append, ← List.cons_append, List.getLast?_concat, ne_eq,
            Option.some.injEq]
          rintro rfl
          exact noQuote (by simp)
      rcases unclosed with rfl | other
      · simp [isOpenString, string, opened]
      · simp [isOpenString, string, opened, other]
  · exact .inr ⟨by simp [isOpenString, string], passable_of_unmarked (formed.unmarked string)⟩

theorem laid_out_nil {column : Nat} {tail : Text} {tokens : List Token}
    (laid : LaidOut column [] tokens tail) : tokens = [] ∧ tail = [] := by
  generalize empty : ([] : Text) = text at laid
  cases laid with
  | @tail _ gap =>
      obtain ⟨rfl, rfl⟩ := List.append_eq_nil_iff.mp empty.symm
      exact ⟨rfl, rfl⟩
  | token _ _ formed =>
      have nothing := (List.append_eq_nil_iff.mp empty.symm).2
      exact absurd (List.append_eq_nil_iff.mp nothing).1 formed.nonempty

theorem unmarked_of_gap {gap : Text} (blank : Gap gap) : Unmarked gap := by
  intro c member
  have skipped := blank c member
  rw [isGap, Bool.or_eq_true, beq_iff_eq, beq_iff_eq] at skipped
  rcases skipped with rfl | rfl <;> decide

/-- Without an open string the code goes on up to what has no tokens. -/
theorem laid_out_closed {column : Nat} {text tail : Text} {tokens : List Token}
    (laid : LaidOut column text tokens tail)
    (closed : ∀ token ∈ tokens, token.isOpenString = false) :
    ∃ covered, text = covered ++ tail ∧ Passable covered := by
  induction laid with
  | @tail column gap tail blank ends =>
      exact ⟨gap, rfl, passable_of_unmarked (unmarked_of_gap blank)⟩
  | @token column gap behind tail token tokens blank place formed others induction =>
      rw [List.forall_mem_cons] at closed
      obtain ⟨covered, rfl, passable⟩ := induction closed.2
      rcases formed_cases formed with ⟨opened, -⟩ | ⟨-, passableToken⟩
      · rw [closed.1] at opened
        cases opened
      · refine ⟨gap ++ (token.text ++ covered), by simp, ?_⟩
        exact passable_append (passable_of_unmarked (unmarked_of_gap blank))
          (passable_append passableToken passable)

/-- An open string stands behind the last quote, and nothing is left behind it. -/
theorem laid_out_opened {column : Nat} {text tail : Text} {tokens : List Token}
    (laid : LaidOut column text tokens tail) {token : Token} (member : token ∈ tokens)
    (opened : token.isOpenString = true) :
    tail = [] ∧ ∃ front body, text = front ++ '"' :: body ∧ Passable front ∧ '"' ∉ body ∧
      token.column = column + front.length := by
  induction laid with
  | tail => cases member
  | @token column gap behind tail first tokens blank place formed others induction =>
      have passableGap := passable_of_unmarked (unmarked_of_gap blank)
      rcases formed_cases formed with ⟨-, rfl, body, noQuote, string⟩ | ⟨closed, passableToken⟩
      · obtain ⟨rfl, rfl⟩ := laid_out_nil others
        obtain rfl := List.mem_singleton.mp member
        exact ⟨rfl, gap, body, by rw [string, List.append_nil], passableGap, noQuote, place⟩
      · have later : token ∈ tokens := by
          rcases List.mem_cons.mp member with rfl | later
          · rw [closed] at opened
            cases opened
          · exact later
        obtain ⟨rfl, front, body, rfl, passable, noQuote, column⟩ := induction later
        refine ⟨rfl, gap ++ (first.text ++ front), body, by simp,
          passable_append passableGap (passable_append passableToken passable), noQuote, ?_⟩
        rw [column, place, List.length_append, List.length_append]
        omega

end Token

/-! The line that has the quotes. -/

namespace Check

/-- What the two ways of finding an open string say of a line without line feeds. -/
theorem open_string_of_line {text : Text} (unbroken : '\n' ∉ text) {token : Token}
    (member : token ∈ Token.ofLine text) (opened : token.isOpenString = true) :
    Token.unread text = [] ∧ ∃ front body, text = front ++ '"' :: body ∧ Passable front ∧
      '"' ∉ body ∧ token.column = 1 + front.length :=
  Token.laid_out_opened (Token.laid_out_of_line text unbroken).2 member opened

theorem code_of_open_string {front body : Text} (passable : Passable front) (noQuote : '"' ∉ body) :
    codeBeforeComment false (front ++ '"' :: body) = front ++ '"' :: body := by
  have inside := code_inside body [] noQuote
  rw [List.append_nil, codeBeforeComment, List.append_nil] at inside
  rw [passable.code, codeBeforeComment, if_pos rfl, Bool.not_false, inside]

/-- The quotes of a line with an open string are not closed. -/
theorem odd_quotes_of_open_string {front body : Text} (passable : Passable front)
    (noQuote : '"' ∉ body) : ((front ++ '"' :: body).count '"') % 2 = 1 := by
  rw [List.count_append, List.count_cons_self, List.count_eq_zero_of_not_mem noQuote]
  have even := passable.quotes
  rw [Nat.even_iff] at even
  omega

/-- Without an open string, only the quotes of the remark count. -/
theorem even_quotes_of_closed {text : Text} (unbroken : '\n' ∉ text)
    (closed : ∀ token ∈ Token.ofLine text, token.isOpenString = false) :
    Even ((codeBeforeComment false text).count '"') ↔
      Even ((codeBeforeComment false (Token.unread text)).count '"') := by
  obtain ⟨covered, split, passable⟩ :=
    Token.laid_out_closed (Token.laid_out_of_line text unbroken).2 closed
  have code := passable.code (Token.unread text)
  rw [← split] at code
  rw [code, List.count_append, Nat.even_add]
  exact ⟨fun same => same.mp passable.quotes, fun even => iff_of_true passable.quotes even⟩

/-- A finding on unmatched quotes about this line. -/
structure OnQuotes (line : SourceLine) (finding : Finding) : Prop where
  category : finding.category = "unmatched-quotes"
  line : finding.line = line.number

/-- A finding on the quotes of a line says that one of its tokens is an open string, and where. -/
structure QuotesAgree (findings : List Finding) (line : SourceLine) : Prop where
  reported : (∃ finding ∈ findings, OnQuotes line finding) ↔
    ∃ token ∈ Token.ofLine line.text, token.isOpenString = true
  column : ∀ finding ∈ findings, OnQuotes line finding →
    ∀ token ∈ Token.ofLine line.text, token.isOpenString = true → finding.column = token.column

/-- The findings on the quotes of a line of code are those of its own check. -/
theorem on_quotes_iff {source : Text} (level : Level) (isKeyword : Text → Bool) {line : SourceLine}
    (member : line ∈ SourceLine.ofText source) (code : line.isCode = true) (finding : Finding) :
    finding ∈ lineFindings level isKeyword (SourceLine.ofText source) ∧ OnQuotes line finding ↔
      finding ∈ quoteFindings line := by
  have listed : finding ∈ lineFindings level isKeyword (SourceLine.ofText source) ∧
      finding.category = "unmatched-quotes" ↔ ∃ other ∈ SourceLine.ofText source,
        other.isCode = true ∧ finding ∈ quoteFindings other := by
    rw [← mem_of_category, of_category_quotes, List.mem_flatMap]
    simp only [List.mem_filter, and_assoc]
  constructor
  · rintro ⟨found, category, number⟩
    obtain ⟨other, otherMember, -, here⟩ := listed.mp ⟨found, category⟩
    have same : other.number = line.number :=
      (quote_finding_cases here).2.number.symm.trans number
    obtain ⟨-, otherPlace, -⟩ := SourceLine.mem_of_text otherMember
    rw [same, (SourceLine.mem_of_text member).2.1, Option.some.injEq] at otherPlace
    exact otherPlace ▸ here
  · intro here
    obtain ⟨found, category⟩ := listed.mpr ⟨line, member, code, here⟩
    exact ⟨found, category, (quote_finding_cases here).2.number⟩

/-- The last quote of a line with an open string is where this string begins. -/
theorem quote_column_of_open {line : SourceLine} (unbroken : '\n' ∉ line.text) {token : Token}
    (listed : token ∈ Token.ofLine line.text) (opened : token.isOpenString = true) :
    quoteFindings line ≠ [] ∧ ∀ finding ∈ quoteFindings line, finding.column = token.column := by
  obtain ⟨-, front, body, split, passable, noQuote, column⟩ :=
    open_string_of_line unbroken listed opened
  have whole : code line = front ++ '"' :: body := by
    rw [code, split, code_of_open_string passable noQuote]
  constructor
  · intro nothing
    rw [quote_findings_nil_iff, quotes_closed_iff, whole, Nat.even_iff,
      odd_quotes_of_open_string passable noQuote] at nothing
    cases nothing
  · intro finding found
    have behind : (code line).reverse.takeWhile (· != '"') = body.reverse := by
      rw [whole, List.reverse_append, List.reverse_cons, List.append_assoc,
        List.takeWhile_append_of_pos]
      · simp
      · intro c member
        rw [bne_iff_ne]
        rintro rfl
        exact noQuote (List.mem_reverse.mp member)
    rw [(quote_finding_cases found).2.column, behind, whole, column, List.length_append,
      List.length_cons, List.length_reverse]
    omega

section Agreement

variable (source : Text) (level : Level) (isKeyword : Text → Bool) {line : SourceLine}

theorem quotes_agree_of_open (member : line ∈ SourceLine.ofText source) (code : line.isCode = true)
    (unbroken : '\n' ∉ line.text)
    (opened : ∃ token ∈ Token.ofLine line.text, token.isOpenString = true) :
    QuotesAgree (lineFindings level isKeyword (SourceLine.ofText source)) line := by
  have own := on_quotes_iff level isKeyword member code
  refine ⟨iff_of_true ?_ opened, fun finding found onQuotes token listed isOpen => ?_⟩
  · obtain ⟨token, listed, isOpen⟩ := opened
    obtain ⟨finding, here⟩ :=
      List.exists_mem_of_ne_nil _ (quote_column_of_open unbroken listed isOpen).1
    exact ⟨finding, (own finding).mpr here⟩
  · exact (quote_column_of_open unbroken listed isOpen).2 finding
      ((own finding).mp ⟨found, onQuotes⟩)

theorem quotes_agree_of_closed (member : line ∈ SourceLine.ofText source)
    (code : line.isCode = true)
    (closed : ∀ token ∈ Token.ofLine line.text, token.isOpenString = false) :
    QuotesAgree (lineFindings level isKeyword (SourceLine.ofText source)) line ↔
      quoteFindings line = [] := by
  have own := on_quotes_iff level isKeyword member code
  have noString : ¬∃ token ∈ Token.ofLine line.text, token.isOpenString = true := by
    rintro ⟨token, listed, opened⟩
    rw [closed token listed] at opened
    cases opened
  constructor
  · intro agree
    by_contra reported
    obtain ⟨finding, here⟩ := List.exists_mem_of_ne_nil _ reported
    exact noString (agree.reported.mp ⟨finding, (own finding).mpr here⟩)
  · intro silent
    refine ⟨iff_of_false ?_ noString, fun finding found onQuotes => ?_⟩
    · rintro ⟨finding, found⟩
      exact List.not_mem_nil (silent ▸ (own finding).mp found)
    · exact absurd ((own finding).mp ⟨found, onQuotes⟩) (silent ▸ List.not_mem_nil)

/-- The findings of a program agree with the tokens of a line on its open string exactly when the
quotes of the remark behind its tokens come in pairs. So they agree on every line that has no such
remark, or one behind an apostrophe. -/
theorem quotes_agree_iff (member : line ∈ SourceLine.ofText source) (code : line.isCode = true) :
    (QuotesAgree (lineFindings level isKeyword (SourceLine.ofText source)) line ↔
      Even ((codeBeforeComment false (Token.unread line.text)).count '"')) ∧
    ((∀ c ∈ (Token.unread line.text).head?, c = '\'') →
      QuotesAgree (lineFindings level isKeyword (SourceLine.ofText source)) line) := by
  have unbroken := SourceLine.no_feed_of_text member
  have agree : QuotesAgree (lineFindings level isKeyword (SourceLine.ofText source)) line ↔
      Even ((codeBeforeComment false (Token.unread line.text)).count '"') := by
    by_cases opened : ∃ token ∈ Token.ofLine line.text, token.isOpenString = true
    · have agrees := quotes_agree_of_open source level isKeyword member code unbroken opened
      obtain ⟨token, listed, isOpen⟩ := opened
      refine iff_of_true agrees ?_
      rw [(open_string_of_line unbroken listed isOpen).1]
      exact Even.zero
    · have closed : ∀ token ∈ Token.ofLine line.text, token.isOpenString = false := by
        simpa using opened
      rw [quotes_agree_of_closed source level isKeyword member code closed,
        quote_findings_nil_iff, quotes_closed_iff]
      exact even_quotes_of_closed unbroken closed
  refine ⟨agree, fun apostrophe => agree.mpr ?_⟩
  cases unread : Token.unread line.text with
  | nil => exact Even.zero
  | cons c rest =>
      obtain rfl : c = '\'' := apostrophe c (by rw [unread]; rfl)
      exact Even.zero

end Agreement

/-- A string that is closed and one that is not, both with an apostrophe inside. -/
def openHeading : SourceLine := ⟨2, "PRINT \"it's\": A$ = \"5' REM".toList⟩

theorem quotes_agree_on_heading :
    openHeading ∈ SourceLine.ofText ("X = 1\n".toList ++ openHeading.text) ∧
      openHeading.isCode = true ∧
      (∀ c ∈ (Token.unread openHeading.text).head?, c = '\'') ∧
      QuotesAgree (lineFindings .strict (fun _ => false)
        (SourceLine.ofText ("X = 1\n".toList ++ openHeading.text))) openHeading ∧
      ∃ token ∈ Token.ofLine openHeading.text, token.isOpenString = true ∧ token.column = 20 := by
  have member : openHeading ∈ SourceLine.ofText ("X = 1\n".toList ++ openHeading.text) :=
    .tail _ (.head _)
  have code : openHeading.isCode = true := by decide +kernel
  have nothing : Token.unread openHeading.text = [] := by decide +kernel
  have opened : (Token.ofLine openHeading.text).any (fun token =>
      token.isOpenString && token.column == 20) = true := by decide +kernel
  have noRemark : ∀ c ∈ (Token.unread openHeading.text).head?, c = '\'' := by simp [nothing]
  refine ⟨member, code, noRemark,
    (quotes_agree_iff _ .strict (fun _ => false) member code).2 noRemark, ?_⟩
  obtain ⟨token, listed, shape⟩ := List.any_eq_true.mp opened
  exact ⟨token, listed, by simpa using shape⟩

/-- A remark with one quote behind a statement. -/
def remarkedWidth : SourceLine := ⟨1, "PRINT 1: REM 5\" wide".toList⟩

theorem quotes_disagree_on_width :
    remarkedWidth ∈ SourceLine.ofText remarkedWidth.text ∧ remarkedWidth.isCode = true ∧
      ¬QuotesAgree (lineFindings .basic (fun _ => false) (SourceLine.ofText remarkedWidth.text))
        remarkedWidth := by
  refine ⟨.head _, by decide +kernel, fun agree => ?_⟩
  have reported : (lineFindings .basic (fun _ => false)
      (SourceLine.ofText remarkedWidth.text)).any (fun finding =>
        finding.category = "unmatched-quotes" && finding.line = 1) = true := by decide +kernel
  have noString : ¬∃ token ∈ Token.ofLine remarkedWidth.text, token.isOpenString = true := by
    decide +kernel
  obtain ⟨finding, found, shape⟩ := List.any_eq_true.mp reported
  rw [Bool.and_eq_true, decide_eq_true_eq, decide_eq_true_eq] at shape
  exact noString (agree.reported.mp ⟨finding, found, shape.1, shape.2⟩)

end Check
end BasicBench
