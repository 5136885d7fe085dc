import BasicBench.Proofs.WaitRemedies

/-!
The books of an enhancement. Every rule reports one issue at most, of a kind of its own, so the
names of issues differ. Each issue has one remedy, and a remedy counts as applied exactly when its
feature is one that the options and the mode ask for.
-/

set_option autoImplicit false

namespace BasicBench.Instrument

open Text Pattern

/-! Issues and their names. -/

theorem kinds_of_issues (mode : Mode) (program : Text) :
    (issues mode program).map (·.kind) =
      IssueKind.all.filter fun kind => (reported? mode program kind).isSome := by
  rw [issues_eq]
  generalize IssueKind.all = kinds
  induction kinds with
  | nil => rfl
  | cons kind kinds induction =>
      cases made : reported? mode program kind with
      | none => simpa [made] using induction
      | some issue => simpa [made, (reported_of_kind made).1] using induction

theorem issue_kinds_differ (mode : Mode) (program : Text) :
    ((issues mode program).map (·.kind)).Nodup := by
  rw [kinds_of_issues]
  exact List.Pairwise.filter _ (by decide)

theorem id_of_issue {mode : Mode} {program : Text} {issue : Issue}
    (found : issue ∈ issues mode program) : issue.id = issue.kind.label ++ "_1" := by
  rw [issues_eq, List.mem_filterMap] at found
  rcases found with ⟨kind, -, made⟩
  rcases reported_of_kind made with ⟨rfl, named⟩
  exact named

theorem kind_of_first_name {kind other : IssueKind}
    (same : kind.label ++ "_1" = other.label ++ "_1") : kind = other := by
  cases kind <;> cases other <;> first | rfl | exact absurd same (by decide)

theorem issue_ids_differ (mode : Mode) (program : Text) :
    ((issues mode program).map (·.id)).Nodup := by
  have named : (issues mode program).map (·.id) =
      ((issues mode program).map (·.kind)).map fun kind => kind.label ++ "_1" := by
    rw [List.map_map]
    exact List.map_congr_left fun issue found => id_of_issue found
  rw [named]
  exact List.Pairwise.map _ (fun kind other differ same => differ (kind_of_first_name same))
    (issue_kinds_differ mode program)

/-- The name of an issue that is found behind others: its kind, and its number among the issues of
that kind. -/
def numberedName (earlier : List Issue) (kind : IssueKind) : String :=
  kind.label ++ "_" ++ toString ((earlier.filter (·.kind = kind)).length + 1)

/-- Counting the issues of each kind, one never comes to two. -/
theorem issue_is_numbered {mode : Mode} {program : Text} {earlier later : List Issue} {issue : Issue}
    (found : issues mode program = earlier ++ issue :: later) :
    issue.id = numberedName earlier issue.kind := by
  have differ := issue_kinds_differ mode program
  rw [found, List.map_append, List.nodup_append] at differ
  have first : earlier.filter (·.kind = issue.kind) = [] := by
    apply List.filter_eq_nil_iff.mpr
    intro other member same
    exact differ.2.2 other.kind (List.mem_map_of_mem member) issue.kind (by simp)
      (of_decide_eq_true same)
  have reported : issue ∈ issues mode program := by
    rw [found]
    exact List.mem_append_right _ List.mem_cons_self
  rw [numberedName, first, String.append_assoc]
  exact id_of_issue reported

/-! Remedies in their order. -/

def Issue.remedy (issue : Issue) : Remedy := ⟨issue.id, issue.kind.advice⟩

/-- What a sort does not tell apart keeps its order. -/
theorem filter_merge_sort {α : Type} {before : α → α → Bool} (items : List α) {chosen : α → Bool}
    (trans : ∀ a b c, before a b → before b c → before a c)
    (total : ∀ a b, before a b || before b a)
    (tied : ∀ a b, chosen a → chosen b → before a b) :
    (items.mergeSort before).filter chosen = items.filter chosen := by
  -- the chosen items are in order as they stand, and the sort keeps such a part of the list
  have level : (items.filter chosen).Pairwise fun a b => before a b := by
    rw [List.pairwise_filter]
    exact List.pairwise_of_forall fun a b => tied a b
  have kept := (List.sublist_mergeSort trans total level List.filter_sublist).filter chosen
  rw [List.filter_filter] at kept
  simp only [Bool.and_self] at kept
  have sizes := ((List.mergeSort_perm items before).filter chosen).length_eq
  exact (kept.eq_of_length sizes.symm).symm

section Order

variable (found : List Issue)

theorem remedies_eq : remedies found =
    (found.map Issue.remedy).mergeSort fun a b => a.advice.priority ≤ b.advice.priority := rfl

theorem remedies_perm : (remedies found).Perm (found.map Issue.remedy) :=
  List.mergeSort_perm _ _

theorem priority_trans (a b c : Remedy) (first : decide (a.advice.priority ≤ b.advice.priority))
    (second : decide (b.advice.priority ≤ c.advice.priority)) :
    decide (a.advice.priority ≤ c.advice.priority) := by
  simp only [decide_eq_true_eq] at *
  omega

theorem priority_total (a b : Remedy) : decide (a.advice.priority ≤ b.advice.priority) ||
    decide (b.advice.priority ≤ a.advice.priority) := by
  simp only [Bool.or_eq_true, decide_eq_true_eq]
  omega

theorem remedies_by_priority :
    (remedies found).Pairwise fun a b => a.advice.priority ≤ b.advice.priority := by
  have sorted := List.pairwise_mergeSort priority_trans priority_total (found.map Issue.remedy)
  simpa only [remedies_eq, decide_eq_true_eq] using sorted

/-- The remedies of one priority stand in the order of their issues. -/
theorem remedies_of_priority (priority : Nat) :
    (remedies found).filter (·.advice.priority = priority) =
      (found.filter (·.kind.advice.priority = priority)).map Issue.remedy := by
  have tied : ∀ a b : Remedy, decide (a.advice.priority = priority) →
      decide (b.advice.priority = priority) → decide (a.advice.priority ≤ b.advice.priority) := by
    intro a b first second
    simp only [decide_eq_true_eq] at *
    omega
  calc
    (remedies found).filter (·.advice.priority = priority) =
        (found.map Issue.remedy).filter (·.advice.priority = priority) :=
      filter_merge_sort _ priority_trans priority_total tied
    _ = (found.filter (·.kind.advice.priority = priority)).map Issue.remedy := List.filter_map

end Order

end BasicBench.Instrument

namespace BasicBench.Sessions

open Instrument Text

/-- The books of an enhancement, told from the options, the program and the issues alone. -/
structure BooksBalance (options : Options) (source : Text) (enhancement : Enhancement) : Prop where
  found : enhancement.session.issues = issues (Mode.detect source) source
  numbered : ∀ earlier issue later, enhancement.session.issues = earlier ++ issue :: later →
    issue.id = numberedName earlier issue.kind
  ids : (enhancement.session.issues.map (·.id)).Nodup
  kinds : (enhancement.session.issues.map (·.kind)).Nodup
  answered : (enhancement.session.remedies.map (·.issueId)).Perm
    (enhancement.session.issues.map (·.id))
  urgent : enhancement.session.remedies.Pairwise fun a b => a.advice.priority ≤ b.advice.priority
  tied : ∀ priority, enhancement.session.remedies.filter (·.advice.priority = priority) =
    (enhancement.session.issues.filter (·.kind.advice.priority = priority)).map Issue.remedy
  detected : enhancement.summary.issuesDetected = enhancement.session.issues.length
  applied : enhancement.summary.solutionsApplied =
    (enhancement.session.issues.filter fun issue =>
      issue.kind.advice.feature ∈ selected options (Mode.detect source)).length
  within : enhancement.summary.solutionsApplied ≤ enhancement.summary.issuesDetected

namespace Store

variable {store : Store} {request : Request} {circumstances : Circumstances}
  {enhancement : Enhancement}

/-- A summary counts what was found, and what was applied. -/
theorem summary_of_enhanced (enhanced : (store.enhance request circumstances).2 = .ok enhancement) :
    enhancement.summary.issuesDetected = enhancement.session.issues.length ∧
      enhancement.summary.solutionsApplied =
        (applied enhancement.session enhancement.instrumented).length := by
  rw [enhance] at enhanced
  split at enhanced
  · cases enhanced
  split at enhanced
  · cases enhanced
  · rw [← Except.ok.inj enhanced]
    exact ⟨rfl, rfl⟩

/-- Remedies are counted by their features, so their order does not matter. -/
theorem applied_length (prepared : Prepared request circumstances enhancement) :
    (applied enhancement.session enhancement.instrumented).length =
      (enhancement.session.issues.filter fun issue => issue.kind.advice.feature ∈
        selected enhancement.session.options enhancement.session.mode).length := by
  have counted := (remedies_perm enhancement.session.issues).filter fun remedy =>
    enhancement.instrumented.features.contains remedy.advice.feature
  rw [applied, prepared.remedies, counted.length_eq, List.filter_map, List.length_map,
    features_of_instrumented prepared.ran]
  refine congrArg List.length (List.filter_congr fun issue _ => ?_)
  rw [Bool.eq_iff_iff, Function.comp_apply, List.contains_iff_mem, decide_eq_true_iff]
  rfl

theorem balanced_of_enhanced (enhanced : (store.enhance request circumstances).2 = .ok enhancement) :
    BooksBalance enhancement.session.options request.source enhancement := by
  have prepared := prepared_of_enhanced enhanced
  rcases summary_of_enhanced enhanced with ⟨detected, counted⟩
  rw [applied_length prepared] at counted
  have found := prepared.issues
  rw [prepared.mode] at found counted
  refine ⟨found, ?numbered, ?ids, ?kinds, ?answered, ?urgent, ?tied, detected, counted, ?within⟩
  case numbered =>
    intro earlier issue later split
    exact issue_is_numbered (found.symm.trans split)
  case ids => exact found ▸ issue_ids_differ ..
  case kinds => exact found ▸ issue_kinds_differ ..
  case answered =>
    rw [prepared.remedies]
    have ids := (remedies_perm enhancement.session.issues).map (·.issueId)
    rw [List.map_map] at ids
    exact ids
  case urgent => exact prepared.remedies ▸ remedies_by_priority _
  case tied =>
    rw [prepared.remedies]
    exact remedies_of_priority _
  case within =>
    rw [counted, detected]
    exact List.length_filter_le ..

/-- With options that can be read, an id that is free and a program that is instrumented, an
enhancement succeeds, and its books balance. -/
theorem enhancement_books_balance (store : Store) (request : Request)
    (circumstances : Circumstances) (options : Options) (instrumented : Instrumented)
    (read : Options.read request.options = .ok options)
    (free : ∃ id ∈ circumstances.ids, id ∉ store.ids)
    (ran : instrument? options (Mode.detect request.source) circumstances.stamp request.source =
      some instrumented) :
    ∃ enhancement, (store.enhance request circumstances).2 = .ok enhancement ∧
      enhancement.session.options = options ∧ enhancement.instrumented = instrumented ∧
      BooksBalance options request.source enhancement := by
  obtain ⟨session, opened, began⟩ := open_session_iff.mpr ⟨⟨options, read⟩, free⟩
  have opens := opens_of_open_session began
  have made : session.options = options := Json.Reading.ok.inj (opens.read.symm.trans read)
  have succeeds : ∃ enhancement, (store.enhance request circumstances).2 = .ok enhancement := by
    rw [enhance, began]
    simp only [opens.mode, made, ran]
    exact ⟨_, rfl⟩
  obtain ⟨enhancement, enhanced⟩ := succeeds
  have prepared := prepared_of_enhanced enhanced
  have same : enhancement.session.options = options :=
    Json.Reading.ok.inj (prepared.read.symm.trans read)
  have balanced := balanced_of_enhanced enhanced
  have ran' := prepared.ran
  rw [prepared.mode, same, ran] at ran'
  rw [same] at balanced
  exact ⟨enhancement, enhanced, same, (Option.some.inj ran').symm, balanced⟩

/-- A program that takes a file handle and ends itself, to be prepared without the management of
resources. -/
def hastyRequest : Request where
  source := "handle = FREEFILE\nSYSTEM".toList
  options := .object [("enableResourceTracking", .bool false)]

/-- The remedy for the file handle is the one of three that is not built in. -/
theorem hasty_books_balance : ∃ enhancement,
    (empty.enhance hastyRequest firstOffer).2 = .ok enhancement ∧
    BooksBalance { resources := false } hastyRequest.source enhancement ∧
    enhancement.summary.issuesDetected = 3 ∧ enhancement.summary.solutionsApplied = 2 := by
  have mode : Mode.detect hastyRequest.source = .console := by decide +kernel
  have three : (issues .console hastyRequest.source).length = 3 := by decide +kernel
  have two : ((issues .console hastyRequest.source).filter fun issue => issue.kind.advice.feature ∈
      selected { resources := false } .console).length = 2 := by decide +kernel
  cases ran : instrument? { resources := false } (Mode.detect hastyRequest.source) firstOffer.stamp
      hastyRequest.source with
  | none =>
      have long := ((instrument_none_iff ..).mp ran).2.2
      exact absurd long (by decide +kernel)
  | some instrumented =>
      obtain ⟨enhancement, enhanced, -, -, balanced⟩ := enhancement_books_balance empty hastyRequest
        firstOffer { resources := false } instrumented rfl
        ⟨"debug_1_000000000", by decide, by decide⟩ ran
      have detected := balanced.detected
      have applied := balanced.applied
      rw [balanced.found, mode] at detected applied
      exact ⟨enhancement, enhanced, balanced, detected.trans three, applied.trans two⟩

end Store
end BasicBench.Sessions
