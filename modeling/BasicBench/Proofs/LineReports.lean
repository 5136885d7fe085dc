import BasicBench.Proofs.Provenance

/-!
The findings of the line checks by category. Every check has a category of its own, so the findings
of a category are what one check says of the lines of code, line by line, whatever the level and
whatever else is reported.
-/

set_option autoImplicit false

namespace BasicBench.Check

open Text

/-- The findings of one category, in their order. -/
def ofCategory (category : String) (findings : List Finding) : List Finding :=
  findings.filter (·.category = category)

section Categories

variable {category : String} {findings others : List Finding}

theorem mem_of_category {finding : Finding} :
    finding ∈ ofCategory category findings ↔ finding ∈ findings ∧ finding.category = category := by
  rw [ofCategory, List.mem_filter, decide_eq_true_eq]

theorem of_category_append : ofCategory category (findings ++ others) =
    ofCategory category findings ++ ofCategory category others :=
  List.filter_append ..

theorem of_category_eq {own : String} (named : ∀ finding ∈ findings, finding.category = own) :
    ofCategory category findings = if own = category then findings else [] := by
  split
  · next same =>
      exact List.filter_eq_self.mpr fun finding member => by simp [named finding member, same]
  · next other =>
      exact List.filter_eq_nil_iff.mpr fun finding member => by simp [named finding member, other]

end Categories

/-! The categories of the checks. -/

section Checks

variable {line : SourceLine} {finding : Finding}

theorem quote_category (found : finding ∈ quoteFindings line) :
    finding.category = "unmatched-quotes" := by
  rw [quoteFindings] at found
  split at found
  · cases found
  · obtain rfl := List.mem_singleton.mp found
    rfl

theorem parenthesis_category (found : finding ∈ parenthesisFindings line) :
    finding.category = "unmatched-parentheses" := by
  rw [parenthesisFindings] at found
  split at found
  · cases found
  · obtain rfl := List.mem_singleton.mp found
    rfl

theorem continuation_category (found : finding ∈ continuationFindings line) :
    finding.category = "invalid-line-continuation" := by
  rw [continuationFindings] at found
  split at found
  · obtain rfl := List.mem_singleton.mp found
    rfl
  · cases found

theorem foreign_category (found : finding ∈ foreignFindings line) :
    finding.category = "non-qb64pe-syntax" := by
  obtain ⟨construct, -, made⟩ := List.mem_filterMap.mp found
  obtain ⟨piece, -, rfl⟩ := Option.map_eq_some_iff.mp made
  rfl

theorem deprecated_category (found : finding ∈ deprecatedFindings line) :
    finding.category = "deprecated-construct" := by
  obtain ⟨construct, -, made⟩ := List.mem_filterMap.mp found
  obtain ⟨piece, -, rfl⟩ := Option.map_eq_some_iff.mp made
  rfl

theorem type_category (found : finding ∈ typeFindings line) :
    finding.category = "type-mismatch" := by
  rcases List.mem_append.mp found with number | text
  · obtain ⟨piece, -, rfl⟩ := List.mem_map.mp number
    rfl
  · obtain ⟨piece, -, rfl⟩ := List.mem_map.mp text
    rfl

theorem length_category (found : finding ∈ lengthFindings line) :
    finding.category = "line-length" := by
  rw [lengthFindings] at found
  split at found
  · obtain rfl := List.mem_singleton.mp found
    rfl
  · cases found

theorem magic_number_category (found : finding ∈ magicNumberFindings line) :
    finding.category = "magic-number" := by
  rw [magicNumberFindings] at found
  split at found
  · cases found
  · obtain ⟨token, -, rfl⟩ := List.mem_map.mp found
    rfl

/-- The categories of the stricter levels. -/
def stricterCategories : List String :=
  ["deprecated-construct", "type-mismatch", "line-length", "magic-number"]

theorem stricter_category {level : Level}
    (found : finding ∈ strictFindings level line ++ readabilityFindings level line) :
    finding.category ∈ stricterCategories := by
  rcases List.mem_append.mp found with strict | readability
  · rcases (strict_finding_cases strict).2 with deprecated | mismatch
    · rw [deprecated_category deprecated]
      decide
    · rw [type_category mismatch]
      decide
  · rcases (readability_finding_cases readability).2 with long | magic
    · rw [length_category long]
      decide
    · rw [magic_number_category magic]
      decide

theorem of_stricter_category {level : Level} {category : String}
    (mild : category ∉ stricterCategories) :
    ofCategory category (strictFindings level line ++ readabilityFindings level line) = [] := by
  rw [ofCategory, List.filter_eq_nil_iff]
  intro finding found same
  rw [decide_eq_true_eq] at same
  exact mild (same ▸ stricter_category found)

/-- Each of the checks that every level makes is one category. -/
theorem of_basic_category (category : String) (line : SourceLine) :
    ofCategory category (basicFindings line) =
      (if "unmatched-quotes" = category then quoteFindings line else []) ++
      (if "unmatched-parentheses" = category then parenthesisFindings line else []) ++
      (if "invalid-line-continuation" = category then continuationFindings line else []) ++
      (if "non-qb64pe-syntax" = category then foreignFindings line else []) := by
  rw [basicFindings, of_category_append, of_category_append, of_category_append,
    of_category_eq fun _ => quote_category, of_category_eq fun _ => parenthesis_category,
    of_category_eq fun _ => continuation_category, of_category_eq fun _ => foreign_category]

end Checks

/-! The lines one by one. -/

/-- What is said of the variable that a line assigns to. -/
def undeclaredFindings (isKeyword : Text → Bool) (known : List Text) (line : SourceLine) :
    List Finding :=
  (undeclaredName? isKeyword known line).toList.map (undeclaredFinding line)

/-- The known names below a line: those above it, and the variable that has been reported. -/
def knownBelow (isKeyword : Text → Bool) (known : List Text) (line : SourceLine) : List Text :=
  (undeclaredName? isKeyword known line).toList.map upper ++ known

section Steps

variable (level : Level) (isKeyword : Text → Bool) (known : List Text) {line : SourceLine}
  (rest : List SourceLine)

theorem findings_from_code (code : line.isCode = true) :
    findingsFrom level isKeyword known (line :: rest) =
      basicFindings line ++ undeclaredFindings isKeyword known line ++
        (strictFindings level line ++ readabilityFindings level line) ++
          findingsFrom level isKeyword (knownBelow isKeyword known line) rest := by
  rw [findingsFrom, if_pos code, undeclaredFindings, knownBelow]
  cases undeclaredName? isKeyword known line <;>
    simp only [Option.toList, List.map_cons, List.map_nil, List.append_assoc, List.nil_append,
      List.cons_append]

theorem findings_from_other (noCode : ¬line.isCode = true) :
    findingsFrom level isKeyword known (line :: rest) =
      findingsFrom level isKeyword known rest := by
  rw [findingsFrom, if_neg noCode]

end Steps

theorem undeclared_category {isKeyword : Text → Bool} {known : List Text} {line : SourceLine}
    {finding : Finding} (found : finding ∈ undeclaredFindings isKeyword known line) :
    finding.category = "implicit-declaration" := by
  obtain ⟨name, -, rfl⟩ := List.mem_map.mp found
  rfl

/-- What a program has of a category that only the checks of every level have. -/
theorem of_category_findings_from {category : String} (declared : "implicit-declaration" ≠ category)
    (mild : category ∉ stricterCategories) (level : Level) (isKeyword : Text → Bool)
    (known : List Text) (lines : List SourceLine) :
    ofCategory category (findingsFrom level isKeyword known lines) =
      (lines.filter (·.isCode)).flatMap fun line => ofCategory category (basicFindings line) := by
  induction lines generalizing known with
  | nil => rfl
  | cons line rest induction =>
      by_cases code : line.isCode = true
      · rw [findings_from_code level isKeyword known rest code, List.filter_cons_of_pos code,
          List.flatMap_cons, of_category_append, of_category_append, of_category_append,
          of_category_eq fun _ => undeclared_category, if_neg declared, of_stricter_category mild,
          induction, List.append_nil, List.append_nil]
      · rw [findings_from_other level isKeyword known rest code, List.filter_cons_of_neg code,
          induction]

theorem of_category_quotes (level : Level) (isKeyword : Text → Bool) (lines : List SourceLine) :
    ofCategory "unmatched-quotes" (lineFindings level isKeyword lines) =
      (lines.filter (·.isCode)).flatMap quoteFindings := by
  rw [lineFindings, of_category_findings_from (by decide) (by decide)]
  simp [of_basic_category]

theorem of_category_parentheses (level : Level) (isKeyword : Text → Bool)
    (lines : List SourceLine) :
    ofCategory "unmatched-parentheses" (lineFindings level isKeyword lines) =
      (lines.filter (·.isCode)).flatMap parenthesisFindings := by
  rw [lineFindings, of_category_findings_from (by decide) (by decide)]
  simp [of_basic_category]

end BasicBench.Check
