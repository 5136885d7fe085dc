import BasicBench.Check.Dialect
import BasicBench.Proofs.SilentLines
import BasicBench.Proofs.Widths

/-!
The scan for constructs of other dialects, taken apart by lines and by rules. What is reported of a
line depends on the lines above it in one way only: once a line, even a comment, has asked for
dynamic arrays, the findings on arrays without a fixed size are left out. On each line of code the
rules report in their order, each the leftmost of its matches.
-/

set_option autoImplicit false

namespace BasicBench

open Text Pattern

namespace Text

/-! The leftmost match. -/

/-- No match begins in front of the one that a search finds. -/
theorem Pattern.find_from_leftmost {pattern : Pattern} {offset : Nat} {before : Option Char}
    {text : Text} {found : Found} (matched : pattern.findFrom offset before text = some found)
    {above piece rest : Text} (split : text = above ++ (piece ++ rest))
    (taken : pattern.Takes (lastOf before above) piece rest) :
    found.offset ≤ offset + above.length := by
  induction text generalizing offset before above with
  | nil =>
      obtain ⟨stop, -, rfl⟩ := Option.map_eq_some_iff.mp matched
      exact Nat.le_add_right ..
  | cons c text induction =>
      rw [findFrom] at matched
      split at matched
      · cases matched
        exact Nat.le_add_right ..
      · next stuck =>
          cases above with
          | nil => exact absurd taken ((stop_none_iff ..).mp stuck piece rest split)
          | cons d above =>
              rw [List.cons_append, List.cons.injEq] at split
              obtain ⟨rfl, behind⟩ := split
              rw [last_of_cons] at taken
              have later := induction matched behind taken
              rw [List.length_cons]
              omega

/-! Pieces of a text and of its upper case. -/

theorem contains_iff_infix (part text : Text) : contains part text = true ↔ part <:+: text := by
  induction text with
  | nil => rw [contains, List.isEmpty_iff, List.infix_nil]
  | cons c rest induction =>
      rw [contains, Bool.or_eq_true, List.isPrefixOf_iff_prefix, induction, List.infix_cons_iff]

/-- A firm letter in the upper case of a text comes from one character, at which the text parts. -/
theorem split_at_firm {letters : Text} {letter : Char} (firm : Firm letters)
    (listed : letter ∈ letters) {text left right : Text}
    (shown : upper text = left ++ letter :: right) :
    ∃ above c below, text = above ++ c :: below ∧ upper above = left ∧ upperChar c = [letter] ∧
      upper below = right := by
  induction text generalizing left with
  | nil => exact absurd shown (by simp [upper])
  | cons c rest induction =>
      rw [upper, List.flatMap_cons] at shown
      change upperChar c ++ upper rest = _ at shown
      have later (front : Text) (same : left = upperChar c ++ front)
          (behind : upper rest = front ++ letter :: right) : ∃ above d below,
            c :: rest = above ++ d :: below ∧ upper above = left ∧ upperChar d = [letter] ∧
              upper below = right := by
        obtain ⟨above, d, below, rfl, rfl, others⟩ := induction behind
        exact ⟨c :: above, d, below, rfl, same.symm, others⟩
      rcases List.append_eq_append_iff.mp shown with ⟨front, same, behind⟩ | ⟨more, same, behind⟩
      · exact later front same behind
      · cases more with
        | nil =>
            rw [List.append_nil] at same
            exact later [] (by rw [same, List.append_nil]) behind.symm
        | cons first more =>
            obtain ⟨rfl, after⟩ := List.cons.inj behind
            have inside : letter ∈ upperChar c := by simp [same]
            obtain ⟨single, -⟩ := upper_char_firm firm listed inside
            rw [single, List.singleton_eq_append_iff] at same
            rcases same with ⟨rfl, alone⟩ | ⟨-, none⟩
            · obtain ⟨-, rfl⟩ := List.cons.inj alone
              exact ⟨[], c, rest, rfl, rfl, single, after.symm⟩
            · cases none

end Text

namespace Check

/-! Lines that ask for dynamic arrays. -/

def dynamicDirective : Text := "$DYNAMIC".toList

/-- The line holds the directive in some mixture of cases, be it in a comment. -/
def AsksForDynamic (line : SourceLine) : Prop :=
  line.isBlank = false ∧ ∃ left piece right, line.text = left ++ (piece ++ right) ∧
    upper piece = dynamicDirective

/-- The first and the last character of the directive. -/
theorem directive_ends_firm : Firm ['$', 'C'] := ⟨by decide +kernel, by decide +kernel, by decide⟩

theorem asks_iff (line : SourceLine) : asksForDynamicArrays line = true ↔ AsksForDynamic line := by
  rw [asksForDynamicArrays, Bool.and_eq_true, Bool.not_eq_true', contains_iff_infix]
  refine and_congr_right fun _ => ⟨?_, ?_⟩
  · rintro ⟨left, right, shown⟩
    change left ++ '$' :: ("DYNAMI".toList ++ ['C']) ++ right = _ at shown
    rw [List.append_assoc, List.cons_append, List.append_assoc, List.singleton_append] at shown
    obtain ⟨above, c, below, split, -, first, behind⟩ :=
      split_at_firm directive_ends_firm (by decide) shown.symm
    obtain ⟨middle, d, right', rfl, between, last, -⟩ :=
      split_at_firm directive_ends_firm (by decide) behind
    refine ⟨above, c :: (middle ++ [d]), right', by simpa using split, ?_⟩
    change upperChar c ++ upper (middle ++ [d]) = _
    rw [first, upper_append, between, show upper [d] = ['C'] by simpa [upper] using last]
    rfl
  · rintro ⟨left, piece, right, split, same⟩
    exact ⟨upper left, upper right, by
      rw [split, upper_append, upper_append, same, List.append_assoc]; rfl⟩

instance (line : SourceLine) : Decidable (AsksForDynamic line) :=
  decidable_of_iff _ (asks_iff line)

/-! One rule. -/

namespace DialectRule

/-- The rule matches `piece` where `above` stands in front of it and `rest` behind it. -/
structure MatchAt (rule : DialectRule) (line : SourceLine) (above piece rest : Text) : Prop where
  split : line.text = above ++ (piece ++ rest)
  taken : rule.pattern.Takes (lastOf none above) piece rest

/-- What the rule says of a piece of a line. -/
def findingAt (rule : DialectRule) (line : SourceLine) (above piece : Text) : Finding :=
  { line := line.number, column := above.length + 1, severity := rule.severity,
    category := rule.category, message := rule.message, suggestion := some rule.advice,
    codeExample := rule.codeExample, origin := .dialect, matched := some (String.ofList piece) }

/-- The finding is about a match, and no match of the rule begins further left. -/
def ReportsMatch (rule : DialectRule) (line : SourceLine) (finding : Finding) : Prop :=
  ∃ above piece rest, rule.MatchAt line above piece rest ∧
    finding = rule.findingAt line above piece ∧
    ∀ above' piece' rest', rule.MatchAt line above' piece' rest' → above.length ≤ above'.length

variable {rule : DialectRule} {line : SourceLine} {finding : Finding}

theorem reports_of_some (made : rule.finding? line = some finding) : rule.ReportsMatch line finding := by
  obtain ⟨found, matched, rfl⟩ := Option.map_eq_some_iff.mp made
  obtain ⟨above, rest, split, place, reads⟩ := find_from_some matched
  rw [Nat.zero_add] at place
  refine ⟨above, found.text, rest, ⟨split, found.groups, reads⟩, ?_, ?_⟩
  · rw [findingAt, Found.column, place]
  · intro above' piece' rest' other
    have first := find_from_leftmost matched other.split other.taken
    omega

theorem finding_none_iff :
    rule.finding? line = none ↔ ∀ above piece rest, ¬rule.MatchAt line above piece rest := by
  rw [finding?, Option.map_eq_none_iff, ← Option.not_isSome_iff_eq_none]
  change ¬rule.pattern.occursIn line.text = true ↔ _
  rw [occurs_in_iff]
  constructor
  · rintro nowhere above piece rest ⟨split, taken⟩
    exact nowhere ⟨above, piece, rest, split, taken⟩
  · rintro nowhere ⟨above, piece, rest, split, taken⟩
    exact nowhere above piece rest ⟨split, taken⟩

theorem category_of_some (made : rule.finding? line = some finding) :
    finding.category = rule.category := by
  obtain ⟨found, -, rfl⟩ := Option.map_eq_some_iff.mp made
  rfl

end DialectRule

/-! One line. -/

/-- The findings of a line in the order of the rules: one for each rule in force that matches. -/
inductive ReportsInOrder (line : SourceLine) (inForce : DialectRule → Prop) :
    List DialectRule → List Finding → Prop
  | done : ReportsInOrder line inForce [] []
  | reported (rule : DialectRule) (finding : Finding) {rules : List DialectRule}
      {findings : List Finding} (force : inForce rule) (reports : rule.ReportsMatch line finding)
      (others : ReportsInOrder line inForce rules findings) :
      ReportsInOrder line inForce (rule :: rules) (finding :: findings)
  | silent (rule : DialectRule) {rules : List DialectRule} {findings : List Finding}
      (quiet : inForce rule → ∀ above piece rest, ¬rule.MatchAt line above piece rest)
      (others : ReportsInOrder line inForce rules findings) :
      ReportsInOrder line inForce (rule :: rules) findings

/-- Only code is checked, and the rule on arrays without a fixed size counts while no line has asked
for dynamic arrays. -/
def InForce (read : List SourceLine) (line : SourceLine) (rule : DialectRule) : Prop :=
  line.isBlank = false ∧ line.isComment = false ∧
    (rule.category = "dynamic_arrays" → ∀ earlier ∈ read, ¬AsksForDynamic earlier)

theorem rule_findings_in_order (rules : List DialectRule) (read : List SourceLine)
    (line : SourceLine) :
    ReportsInOrder line (InForce read line) rules
      (ruleFindings rules (read.any asksForDynamicArrays) line) := by
  have asked : read.any asksForDynamicArrays = false ↔ ∀ earlier ∈ read, ¬AsksForDynamic earlier := by
    simp only [List.any_eq_false, asks_iff]
  -- on the table: whether the line is code is asked anew for each rest of it
  induction rules with
  | nil => rw [ruleFindings, List.filterMap_nil, ite_self]; exact .done
  | cons rule rules induction =>
      rw [ruleFindings] at induction ⊢
      split at induction
      next code =>
        rw [if_pos code]
        have solid : line.isBlank = false ∧ line.isComment = false := by
          simpa [SourceLine.isCode] using code
        -- a rule is silent because it is not in force, or because it does not match
        by_cases quiet : (rule.isAboutFixedArrays && read.any asksForDynamicArrays) = true
        · rw [List.filterMap_cons_none (by rw [if_pos quiet])]
          rw [Bool.and_eq_true, DialectRule.isAboutFixedArrays, beq_iff_eq] at quiet
          refine .silent rule (fun force => ?_) induction
          rw [asked.mpr (force.2.2 quiet.1)] at quiet
          exact absurd quiet.2 (by decide)
        · have force : InForce read line rule := by
            refine ⟨solid.1, solid.2, fun named => asked.mp ?_⟩
            rw [DialectRule.isAboutFixedArrays, named, beq_self_eq_true, Bool.true_and,
              Bool.not_eq_true] at quiet
            exact quiet
          cases made : rule.finding? line with
          | none =>
              rw [List.filterMap_cons_none (by rw [if_neg quiet, made])]
              exact .silent rule (fun _ => DialectRule.finding_none_iff.mp made) induction
          | some finding =>
              rw [List.filterMap_cons_some (by rw [if_neg quiet, made])]
              exact .reported rule finding force (DialectRule.reports_of_some made) induction
      next noCode =>
        rw [if_neg noCode]
        refine .silent rule (fun force => absurd ?_ noCode) induction
        rw [SourceLine.isCode, force.1, force.2.1]
        rfl

/-! Lines below other lines. -/

/-- What is left of the findings when the rule on arrays without a fixed size is silent. -/
def withoutFixedArrays (findings : List Finding) : List Finding :=
  findings.filter (·.category ≠ "dynamic_arrays")

theorem rule_findings_silenced (rules : List DialectRule) (dynamic : Bool) (line : SourceLine) :
    ruleFindings rules true line = withoutFixedArrays (ruleFindings rules dynamic line) := by
  rw [ruleFindings, ruleFindings, withoutFixedArrays]
  split
  · rw [List.filter_filterMap]
    refine List.filterMap_congr fun rule _ => ?_
    have about : rule.isAboutFixedArrays = true ↔ rule.category = "dynamic_arrays" := beq_iff_eq
    cases made : rule.finding? line with
    | none => simp
    | some finding =>
        have category := DialectRule.category_of_some made
        by_cases fixed : rule.category = "dynamic_arrays"
        · rw [about.mpr fixed]
          cases dynamic <;> simp [Option.filter, category, fixed]
        · rw [Bool.eq_false_iff.mpr (mt about.mp fixed)]
          simp [Option.filter, category, fixed]
  · rfl

/-- Silencing the rule from the first line on is leaving its findings out. -/
theorem dialect_findings_silenced (rules : List DialectRule) (dynamic : Bool)
    (lines : List SourceLine) :
    dialectFindingsFrom rules true lines =
      withoutFixedArrays (dialectFindingsFrom rules dynamic lines) := by
  induction lines generalizing dynamic with
  | nil => rfl
  | cons line rest induction =>
      simp only [dialectFindingsFrom, Bool.true_or]
      rw [rule_findings_silenced rules (dynamic || asksForDynamicArrays line),
        induction (dynamic || asksForDynamicArrays line), withoutFixedArrays, withoutFixedArrays,
        withoutFixedArrays, List.filter_append]

theorem dialect_findings_append (rules : List DialectRule) (dynamic : Bool)
    (above below : List SourceLine) :
    dialectFindingsFrom rules dynamic (above ++ below) =
      dialectFindingsFrom rules dynamic above ++
        dialectFindingsFrom rules (dynamic || above.any asksForDynamicArrays) below := by
  induction above generalizing dynamic with
  | nil => rw [List.any_nil, Bool.or_false]; rfl
  | cons line above induction =>
      rw [List.cons_append, dialectFindingsFrom, dialectFindingsFrom, induction, List.any_cons,
        Bool.or_assoc, List.append_assoc]

/-- The findings of a program are those of its upper lines and those of its lower lines, the latter
without those on arrays once an upper line has asked for dynamic arrays. On one line the rules in
force report in their order, each that matches once and at the leftmost of its matches. -/
theorem dialect_findings_by_lines (rules : List DialectRule) (above : List SourceLine) :
    (∀ below, dialectFindingsFrom rules false (above ++ below) =
      dialectFindingsFrom rules false above ++
        if ∃ line ∈ above, AsksForDynamic line then
          withoutFixedArrays (dialectFindingsFrom rules false below)
        else dialectFindingsFrom rules false below) ∧
    ∀ line, ∃ findings, dialectFindingsFrom rules false (above ++ [line]) =
      dialectFindingsFrom rules false above ++ findings ∧
        ReportsInOrder line (InForce (above ++ [line]) line) rules findings := by
  refine ⟨fun below => ?_, fun line => ?_⟩
  · rw [dialect_findings_append, Bool.false_or]
    congr 1
    split
    next asked =>
      obtain ⟨line, member, asks⟩ := asked
      rw [List.any_eq_true.mpr ⟨line, member, (asks_iff line).mpr asks⟩]
      exact dialect_findings_silenced rules false below
    next unasked =>
      have none : above.any asksForDynamicArrays = false :=
        List.any_eq_false.mpr fun line member asks => unasked ⟨line, member, (asks_iff line).mp asks⟩
      rw [none]
  · have known : (above.any asksForDynamicArrays || asksForDynamicArrays line) =
        (above ++ [line]).any asksForDynamicArrays := by simp
    refine ⟨ruleFindings rules ((above ++ [line]).any asksForDynamicArrays) line, ?_,
      rule_findings_in_order rules (above ++ [line]) line⟩
    rw [dialect_findings_append, Bool.false_or, dialectFindingsFrom, dialectFindingsFrom,
      List.append_nil, known]

/-- A comment is enough to ask for dynamic arrays, in whichever case. -/
example : (dialectFindings
      (SourceLine.ofText "DIM a(n) AS LONG\n' $Dynamic\nDIM b(n) AS LONG".toList)).map
    (fun finding => (finding.line, finding.column, finding.category)) =
      [(1, 1, "dynamic_arrays")] := by
  decide +kernel

end Check
end BasicBench
