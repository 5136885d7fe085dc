import BasicBench.Proofs.Keeping

/-!
Passes that change nothing. A pass reports no change exactly when each of its actions leaves the
lines of the program alone, and then it leaves the whole program alone, if line feeds are its only
line ends. The programs that passes write are of this kind.
-/

set_option autoImplicit false

namespace BasicBench.Instrument

open Text Pattern

/-- The actions that leave the lines as they are. -/
def Idle (options : Options) (stamp : Text) (lines : List Text) (action : Action) : Prop :=
  action.perform options stamp lines = lines

/-- A pass all of whose actions leave the lines as they are. -/
def IdlePass (options : Options) (stamp : Text) (lines : List Text) (feature : Feature) : Prop :=
  ∀ action ∈ actionsOf options feature, Idle options stamp lines action

section Idle

variable {options : Options} {stamp : Text}

theorem changes_nonempty (action : Action) : action.changes ≠ [] := by
  cases action with
  | support feature => cases feature <;> simp [Action.changes]
  | exchange edit => cases edit <;> simp [Action.changes]
  | _ => simp [Action.changes]

theorem act_of_idle {draft : Draft} {action : Action} (idle : Idle options stamp draft.lines action) :
    draft.act options stamp action = draft :=
  if_pos idle

theorem act_reports {draft : Draft} {action : Action}
    (active : ¬Idle options stamp draft.lines action) :
    (draft.act options stamp action).changes = draft.changes ++ action.changes :=
  congrArg Draft.changes (if_neg active)

/-- Reports are never taken back. -/
theorem reports_grow (options : Options) (stamp : Text) (actions : List Action) (draft : Draft) :
    ∃ more, (actions.foldl (Draft.act options stamp) draft).changes = draft.changes ++ more := by
  induction actions generalizing draft with
  | nil => exact ⟨[], by simp⟩
  | cons action actions induction =>
      obtain ⟨more, grown⟩ := induction (draft.act options stamp action)
      rw [List.foldl_cons, grown]
      by_cases idle : Idle options stamp draft.lines action
      · exact ⟨more, by rw [act_of_idle idle]⟩
      · exact ⟨action.changes ++ more, by rw [act_reports idle, List.append_assoc]⟩

/-- Nothing is reported exactly when no action changes a line. -/
theorem acts_silent_iff (options : Options) (stamp : Text) (actions : List Action) (draft : Draft) :
    (actions.foldl (Draft.act options stamp) draft).changes = draft.changes ↔
      ∀ action ∈ actions, Idle options stamp draft.lines action := by
  induction actions with
  | nil => simp
  | cons action actions induction =>
      rw [List.foldl_cons, List.forall_mem_cons]
      by_cases idle : Idle options stamp draft.lines action
      · rw [act_of_idle idle, induction]
        simp [idle]
      · obtain ⟨more, grown⟩ := reports_grow options stamp actions (draft.act options stamp action)
        rw [grown, act_reports idle, List.append_assoc, List.append_right_eq_self]
        simp [idle, changes_nonempty]

theorem acts_of_idle {actions : List Action} {draft : Draft}
    (idle : ∀ action ∈ actions, Idle options stamp draft.lines action) :
    actions.foldl (Draft.act options stamp) draft = draft := by
  induction actions with
  | nil => rfl
  | cons action actions induction =>
      rw [List.foldl_cons, act_of_idle (idle action (by simp))]
      exact induction fun other member => idle other (by simp [member])

/-- A pass is silent exactly when it is idle. -/
theorem pass_silent_iff {feature : Feature} {program : Text} {revision : Revision}
    (ran : runPass? options stamp feature program = some revision) :
    revision.changes = [] ↔ IdlePass options stamp (splitLines program) feature := by
  rw [run_pass_eq] at ran
  obtain ⟨draft, drafted, rfl⟩ := Option.map_eq_some_iff.mp ran
  have silent := acts_silent_iff options stamp (actionsOf options feature) ⟨splitLines program, []⟩
  rw [← pass_draft_eq options stamp _ feature draft drafted] at silent
  rw [IdlePass, ← silent]
  split
  next flow => simp [flow.2]
  next => rfl

/-- A silent pass keeps a program whose only line ends are line feeds, and the rearrangement keeps
any. -/
theorem silent_pass_keeps {feature : Feature} {program : Text} {revision : Revision}
    (ran : runPass? options stamp feature program = some revision)
    (regular : Plain program ∨ feature = .flowControl) (silent : revision.changes = []) :
    revision.program = program := by
  have idle := (pass_silent_iff ran).mp silent
  rw [run_pass_eq] at ran
  obtain ⟨draft, drafted, rfl⟩ := Option.map_eq_some_iff.mp ran
  have same : draft = ⟨splitLines program, []⟩ :=
    (pass_draft_eq options stamp _ feature draft drafted).trans (acts_of_idle idle)
  subst same
  split
  next => rfl
  next other =>
    have flow : feature ≠ .flowControl := fun flow => other ⟨flow, rfl⟩
    exact join_split program (regular.resolve_right flow)

/-- What a pass writes has line feeds as its only line ends. -/
theorem plain_after_pass (plain : Unbroken stamp) {feature : Feature} {program : Text}
    {revision : Revision} (ran : runPass? options stamp feature program = some revision)
    (regular : Plain program ∨ feature ≠ .flowControl) : Plain revision.program := by
  rw [run_pass_eq] at ran
  obtain ⟨draft, drafted, rfl⟩ := Option.map_eq_some_iff.mp ran
  have unbroken : AllUnbroken draft.lines := by
    rw [pass_draft_eq options stamp _ feature draft drafted, lines_of_acts]
    exact unbroken_perform_all plain _ _ (all_unbroken_split program)
  split
  next idle => exact regular.resolve_right fun other => other idle.1
  next => exact join_lines_plain draft.lines _ unbroken

/-- Programs that all of these passes keep when they are silent. -/
def Regular (features : List Feature) (program : Text) : Prop :=
  Plain program ∨ ∀ feature ∈ features, feature = .flowControl

theorem regular_after_passes (plain : Unbroken stamp) {features : List Feature} {program : Text}
    {revision : Revision} (ran : runPasses? options stamp program features = some revision)
    (regular : Plain program ∨ ∃ feature ∈ features, feature ≠ .flowControl) :
    Plain revision.program := by
  induction features generalizing program revision with
  | nil =>
      obtain rfl := Option.some.inj ran
      exact regular.resolve_right (by simp)
  | cons feature features induction =>
      obtain ⟨first, last, ranFirst, ranLast, rfl⟩ := run_passes_cons ran
      have later : Plain last.program := by
        refine induction ranLast ?_
        by_cases flow : feature = .flowControl
        · rcases regular with regular | ⟨other, member, moves⟩
          · exact .inl (plain_after_pass plain ranFirst (.inl regular))
          · rcases List.mem_cons.mp member with rfl | behind
            · exact absurd flow moves
            · exact .inr ⟨other, behind, moves⟩
        · exact .inl (plain_after_pass plain ranFirst (.inr flow))
      exact later

/-- A run is silent exactly when all its passes are idle, and then it keeps the program. -/
theorem run_silent_iff {features : List Feature} {program : Text} {revision : Revision}
    (regular : Regular features program)
    (ran : runPasses? options stamp program features = some revision) :
    (revision.changes = [] ↔ ∀ feature ∈ features, IdlePass options stamp (splitLines program) feature) ∧
      (revision.changes = [] → revision.program = program) := by
  induction features generalizing program revision with
  | nil =>
      obtain rfl := Option.some.inj ran
      simp
  | cons feature features induction =>
      obtain ⟨first, last, ranFirst, ranLast, rfl⟩ := run_passes_cons ran
      rw [List.append_eq_nil_iff, List.forall_mem_cons, ← pass_silent_iff ranFirst]
      by_cases silent : first.changes = []
      · have here : Plain program ∨ feature = .flowControl :=
          regular.imp id fun flow => flow feature (by simp)
        have same := silent_pass_keeps ranFirst here silent
        rw [same] at ranLast
        obtain ⟨iff, kept⟩ := induction
          (regular.imp id fun flow other member => flow other (by simp [member])) ranLast
        exact ⟨and_congr_right fun _ => iff, fun both => kept both.2⟩
      · simp [silent]

end Idle

end BasicBench.Instrument
