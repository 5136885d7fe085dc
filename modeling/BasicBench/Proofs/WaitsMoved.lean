import BasicBench.Proofs.InsideLines
import BasicBench.Proofs.TopLines
import BasicBench.Proofs.Waits

/-!
Prompts and waits while the main program is wrapped. The wrapping takes the procedures out of the
main program, and so it can bring a prompt and a wait of the main program together; it parts none.
-/

set_option autoImplicit false

namespace BasicBench.Instrument

open Text Pattern

theorem roles_concat (lines : List Text) (line : Text) :
    roles (lines ++ [line]) = roles lines ++ (role? line).toList := by
  rw [roles_append, roles_cons]
  exact congrArg (roles lines ++ ·) (List.append_nil _)

theorem stalls_concat (above : List Role) (last : Option Role) :
    Stalls (above ++ last.toList) ↔
      Stalls above ∨ (above.getLast? = some .prompt ∧ last = some .wait) := by
  cases last with
  | none => simp
  | some role =>
      rw [Option.toList_some, Option.some.injEq]
      induction above with
      | nil => simp [stalls_cons, not_stalls_nil]
      | cons first above induction =>
          rw [List.cons_append, stalls_cons, stalls_cons, induction, or_assoc]
          cases above with
          | nil => simp [not_stalls_nil]
          | cons next above => simp

theorem last_role (above : List Role) (last : Option Role) :
    (above ++ last.toList).getLast? = last.or above.getLast? := by
  cases last <;> simp

/-- A declaration is no prompt and no wait. -/
theorem role_of_top {line : Text} (top : isTopLine line = true) :
    role? line = none ∨ role? line = some .other := by
  cases role : role? line with
  | none => exact .inl rfl
  | some kind =>
      cases kind with
      | other => exact .inr rfl
      | prompt =>
          have leads := leads_of_starts led_prompt ((role_prompt_iff line).mp role)
          rw [not_top_of_leads (leads_shorter "PR".toList "INT".toList line
            (by rwa [show "PR".toList ++ "INT".toList = "PRINT".toList by decide]))
            (by decide) (by decide) (by decide)] at top
          cases top
      | wait =>
          have leads := leads_of_starts led_sleep ((role_wait_iff line).mp role)
          rw [not_top_of_leads (leads_shorter "SL".toList "EEP".toList line
            (by rwa [show "SL".toList ++ "EEP".toList = "SLEEP".toList by decide]))
            (by decide) (by decide) (by decide)] at top
          cases top

theorem role_of_procedure_start {line : Text} (starts : procedureStart.startsText line = true) :
    role? line = some .other := by
  rcases leads_of_procedure_start starts with leads | leads
  · exact role_of_leads (by decide) leads
  · exact role_of_leads (by decide) leads

namespace Sections

/-- The roles of the procedures that stand outside blocks. -/
def procedureRoles (sections : Sections) : List Role :=
  roles (outer (tagFrom 0 sections.procedures))

/-- How the parts wait once the lines `before` have been distributed: a wait that is there is in
the main program or in the procedures, and those in the procedures were there before. -/
structure Waiting (before : List (Text × Bool)) (sections : Sections) : Prop
    extends Distributed before sections where
  declared : ∀ line, (line, false) ∈ tagFrom 0 sections.top → isTopLine line = true
  kept : Stalls (roles (outer before)) →
    Stalls (roles sections.main) ∨ Stalls sections.procedureRoles
  old : Stalls sections.procedureRoles → Stalls (roles (outer before))
  -- Where the next line goes, a prompt that is the last statement so far is the last one too.
  inside : sections.inProcedure = true →
    (sections.procedureRoles.getLast? = some .prompt ↔
      (roles (outer before)).getLast? = some .prompt)
  behind : sections.inProcedure = false →
    sections.procedureRoles.getLast? ≠ some .prompt ∧
      ((roles (outer before)).getLast? = some .prompt →
        (roles sections.main).getLast? = some .prompt)

theorem procedure_roles_concat {sections : Sections} {line : Text}
    (closed : depthThrough 0 sections.procedures = 0) (outside : isInside 0 line = false) :
    roles (outer (tagFrom 0 (sections.procedures ++ [line]))) =
      sections.procedureRoles ++ (role? line).toList := by
  rw [tag_from_concat, closed, outside, outer_append, outer_outside]
  exact roles_concat _ line

theorem roles_outer_concat (before : List (Text × Bool)) (line : Text) :
    roles (outer (before ++ [(line, false)])) = roles (outer before) ++ (role? line).toList := by
  rw [outer_append, outer_outside]
  exact roles_concat _ line

/-- A line inside a block makes no difference to what stands outside. -/
theorem waiting_add_inside {before : List (Text × Bool)} {sections : Sections}
    (waiting : Waiting before sections) {line : Text}
    (side : isInside (depthThrough 0 (before.map (·.1))) line = true) :
    Waiting (before ++ [(line, true)]) (sections.add line true) := by
  have distributed := distributed_add_inside waiting.toDistributed side
  have same : outer (before ++ [(line, true)]) = outer before := by
    rw [outer_append, outer_inside]
    exact List.append_nil _
  have depths := waiting.depths
  rw [add, if_pos rfl] at distributed ⊢
  split
  next empty =>
    rw [if_pos empty] at depths distributed
    refine ⟨distributed, ?_, ?_, ?_, ?_, ?_⟩
    · intro other outside
      rw [tag_from_concat, depths.1, side, List.mem_append] at outside
      rcases outside with old | new
      · exact waiting.declared other old
      · cases (Prod.mk.inj (List.mem_singleton.mp new)).2
    · rw [same]
      exact waiting.kept
    · rw [same]
      exact waiting.old
    · rw [same]
      exact waiting.inside
    · rw [same]
      exact waiting.behind
  next filled =>
    rw [if_neg filled] at depths distributed
    have stay : roles (outer (tagFrom 0 (sections.procedures ++ [line]))) =
        sections.procedureRoles := by
      rw [tag_from_concat, depths.2, side, outer_append, outer_inside]
      exact congrArg roles (List.append_nil _)
    refine ⟨distributed, waiting.declared, ?_, ?_, ?_, ?_⟩
    · rw [same, procedureRoles, stay]
      exact waiting.kept
    · rw [same, procedureRoles, stay]
      exact waiting.old
    · rw [same, procedureRoles, stay]
      exact waiting.inside
    · rw [same, procedureRoles, stay]
      exact waiting.behind

section Outside

variable {before : List (Text × Bool)} {sections : Sections} (waiting : Waiting before sections)
  {line : Text} (side : isInside (depthThrough 0 (before.map (·.1))) line = false)

include waiting side

/-- The nesting is closed behind the top and the procedures, so the line stands outside there. -/
theorem outside_parts : isInside (depthThrough 0 sections.top) line = false ∧
    roles (outer (tagFrom 0 (sections.procedures ++ [line]))) =
      sections.procedureRoles ++ (role? line).toList := by
  have flat := ((outside_iff _ line).mp side).1
  rcases waiting.toDistributed.closed flat with ⟨topDepth, procedureDepth⟩
  rw [flat] at side
  exact ⟨by rwa [topDepth], procedure_roles_concat procedureDepth side⟩

theorem waiting_in_procedure (within : sections.inProcedure = true) :
    Waiting (before ++ [(line, false)]) (sections.add line false) := by
  have distributed := distributed_add_outside waiting.toDistributed side
  have grown := (outside_parts waiting side).2
  have longer := roles_outer_concat before line
  have alike := waiting.inside within
  rw [add, if_neg (by decide), if_pos within] at distributed ⊢
  refine ⟨distributed, waiting.declared, ?_, ?_, ?_, ?_⟩
  · rw [longer, procedureRoles, grown, stalls_concat, stalls_concat, alike]
    intro stalls
    rcases stalls with before | new
    · exact (waiting.kept before).imp id .inl
    · exact .inr (.inr new)
  · rw [longer, procedureRoles, grown, stalls_concat, stalls_concat, alike]
    exact Or.imp_left waiting.old
  · intro _
    rw [longer, procedureRoles, grown, last_role, last_role]
    cases role? line with
    | none => exact alike
    | some role => rfl
  · intro ends
    have role : role? line = some .other :=
      role_of_starts led_procedure_end (by decide) (by simpa using ends)
    rw [longer, procedureRoles, grown, role, last_role, last_role]
    exact ⟨by simp, by simp⟩

theorem waiting_at_start (outer : ¬sections.inProcedure = true)
    (starts : procedureStart.startsText line = true) :
    Waiting (before ++ [(line, false)]) (sections.add line false) := by
  have distributed := distributed_add_outside waiting.toDistributed side
  have grown := (outside_parts waiting side).2
  have longer := roles_outer_concat before line
  have role := role_of_procedure_start starts
  rw [add, if_neg (by decide), if_neg outer, if_pos starts] at distributed ⊢
  refine ⟨distributed, waiting.declared, ?_, ?_, ?_, ?_⟩
  · rw [longer, procedureRoles, grown, role, stalls_concat, stalls_concat]
    intro stalls
    rcases stalls with before | ⟨-, other⟩
    · exact (waiting.kept before).imp id .inl
    · cases other
  · rw [longer, procedureRoles, grown, role, stalls_concat, stalls_concat]
    intro stalls
    rcases stalls with before | ⟨-, other⟩
    · exact .inl (waiting.old before)
    · cases other
  · intro _
    rw [longer, procedureRoles, grown, role, last_role, last_role]
    rfl
  · exact fun outside => absurd outside (by simp)

theorem waiting_on_top (outer : ¬sections.inProcedure = true)
    (plain : ¬procedureStart.startsText line = true)
    (declares : (sections.main.isEmpty && isTopLine line) = true) :
    Waiting (before ++ [(line, false)]) (sections.add line false) := by
  have distributed := distributed_add_outside waiting.toDistributed side
  have onTop := (outside_parts waiting side).1
  have longer := roles_outer_concat before line
  rcases waiting.behind (by simpa using outer) with ⟨quiet, shared⟩
  rw [add, if_neg (by decide), if_neg outer, if_neg plain, if_pos declares] at distributed ⊢
  rw [Bool.and_eq_true] at declares
  have role := role_of_top declares.2
  refine ⟨distributed, ?_, ?_, ?_, ?_, ?_⟩
  · intro other outside
    rw [tag_from_concat, onTop, List.mem_append] at outside
    rcases outside with old | new
    · exact waiting.declared other old
    · rw [(Prod.mk.inj (List.mem_singleton.mp new)).1]
      exact declares.2
  · rw [longer, stalls_concat]
    intro stalls
    rcases stalls with before | ⟨-, waits⟩
    · exact waiting.kept before
    · rw [waits] at role
      simp at role
  · rw [longer, stalls_concat]
    exact fun stalls => .inl (waiting.old stalls)
  · exact fun within => absurd within outer
  · intro _
    refine ⟨quiet, ?_⟩
    rw [longer, last_role]
    rcases role with none | other
    · rw [none]
      exact shared
    · rw [other]
      exact fun last => absurd last (by simp)

theorem waiting_in_main (outer : ¬sections.inProcedure = true)
    (plain : ¬procedureStart.startsText line = true)
    (main : ¬(sections.main.isEmpty && isTopLine line) = true) :
    Waiting (before ++ [(line, false)]) (sections.add line false) := by
  have distributed := distributed_add_outside waiting.toDistributed side
  have longer := roles_outer_concat before line
  rcases waiting.behind (by simpa using outer) with ⟨quiet, shared⟩
  rw [add, if_neg (by decide), if_neg outer, if_neg plain, if_neg main] at distributed ⊢
  refine ⟨distributed, waiting.declared, ?_, ?_, ?_, ?_⟩
  · rw [longer, stalls_concat, roles_concat, stalls_concat]
    intro stalls
    rcases stalls with before | ⟨last, waits⟩
    · exact (waiting.kept before).imp .inl id
    · exact .inl (.inr ⟨shared last, waits⟩)
  · rw [longer, stalls_concat]
    exact fun stalls => .inl (waiting.old stalls)
  · exact fun within => absurd within outer
  · intro _
    refine ⟨quiet, ?_⟩
    rw [longer, last_role, roles_concat, last_role]
    cases role? line with
    | none => exact shared
    | some role => exact id

end Outside

theorem waiting_add {before : List (Text × Bool)} {sections : Sections}
    (waiting : Waiting before sections) (line : Text) :
    Waiting (before ++ [(line, isInside (depthThrough 0 (before.map (·.1))) line)])
      (sections.add line (isInside (depthThrough 0 (before.map (·.1))) line)) := by
  cases side : isInside (depthThrough 0 (before.map (·.1))) line with
  | true => exact waiting_add_inside waiting side
  | false =>
      by_cases within : sections.inProcedure = true
      · exact waiting_in_procedure waiting side within
      · by_cases starts : procedureStart.startsText line = true
        · exact waiting_at_start waiting side within starts
        · by_cases declares : (sections.main.isEmpty && isTopLine line) = true
          · exact waiting_on_top waiting side within starts declares
          · exact waiting_in_main waiting side within starts declares

theorem waiting_nil : Waiting [] {} where
  toDistributed := distributed_nil
  declared _ member := absurd member List.not_mem_nil
  kept stalls := absurd stalls not_stalls_nil
  old stalls := absurd stalls not_stalls_nil
  inside within := absurd within (by decide)
  behind _ := ⟨by decide, by decide⟩

theorem waiting_of_lines (lines : List Text) : Waiting (masked lines) (ofLines lines) :=
  of_lines_induction waiting_nil (fun _ _ line waiting => waiting_add waiting line) lines

/-- Where no procedure begins the main program is the end of what stands outside blocks, and from
its first line on all of it. -/
theorem main_behind {tagged : List (Text × Bool)}
    (plain : ∀ line, (line, false) ∈ tagged → procedureStart.startsText line = false)
    (sections : Sections) (outside : sections.inProcedure = false) :
    ∃ above below, outer tagged = above ++ below ∧ (sections.main ≠ [] → above = []) ∧
      (tagged.foldl (fun sections (line, inside) => sections.add line inside) sections).main =
        sections.main ++ below := by
  induction tagged generalizing sections with
  | nil => exact ⟨[], [], rfl, fun _ => rfl, (List.append_nil _).symm⟩
  | cons entry rest induction =>
      rcases entry with ⟨line, inside⟩
      have later := fun other member => plain other (List.mem_cons_of_mem _ member)
      simp only [List.foldl_cons]
      cases inside with
      | true =>
          have same : (sections.add line true).main = sections.main ∧
              (sections.add line true).inProcedure = false := by
            rw [add, if_pos rfl]
            split
            · exact ⟨rfl, outside⟩
            · exact ⟨rfl, outside⟩
          have behind := induction later _ same.2
          rwa [same.1] at behind
      | false =>
          have starts := plain line List.mem_cons_self
          rw [add, if_neg (by decide), if_neg (by simp [outside]), if_neg (by simp [starts])]
          rw [outer_outside]
          split
          next declares =>
            have empty := List.isEmpty_iff.mp (Bool.and_eq_true_iff.mp declares).1
            rcases induction later { sections with top := sections.top ++ [line] } outside with
              ⟨above, below, split, -, main⟩
            exact ⟨line :: above, below, by rw [split]; rfl, fun filled => absurd empty filled, main⟩
          next =>
            rcases induction later { sections with main := sections.main ++ [line] } outside with
              ⟨above, below, split, none, main⟩
            rw [none (List.append_ne_nil_of_right_ne_nil _ (List.cons_ne_nil _ _))] at split
            refine ⟨[], line :: below, by rw [split]; rfl, fun _ => rfl, ?_⟩
            rw [main, List.append_assoc]
            rfl

/-- A program without procedures has no wait in its main part that it does not have as a whole. -/
theorem stalls_of_main {lines : List Text}
    (plain : ∀ line, Outside lines line → procedureStart.startsText line = false)
    (stalls : Stalls (roles (ofLines lines).main)) : Stalls (outsideRoles lines) := by
  rcases main_behind plain {} rfl with ⟨above, below, split, -, main⟩
  rw [ofLines, main, List.nil_append] at stalls
  rw [outsideRoles, outsideLines, split, roles_append]
  exact stalls.trans (List.suffix_append _ _).isInfix

end Sections

/-! The new program. -/

theorem front_roles (hasConsole autoExit : Bool) :
    .prompt ∉ roles (asLines (frontLines hasConsole autoExit)) := by
  cases hasConsole <;> cases autoExit <;> decide +kernel

theorem body_roles (sections : Sections) :
    roles (sections.mainBody.map indentLine) = roles sections.main := by
  rcases sections.main_split with ⟨gap, split, blank⟩
  have none : roles gap = [] :=
    List.filterMap_eq_nil_iff.mpr fun line member => role_of_blank (blank line member)
  rw [roles_map fun line _ => role_indent_line line, split, roles_append, none, List.append_nil]

theorem outside_roles_arrange {lines : List Text} (hasConsole autoExit : Bool)
    (wrapping : wraps lines = true) :
    outsideRoles (arrange (Sections.ofLines lines) hasConsole autoExit) =
      roles (outer (tagFrom 0 (Sections.ofLines lines).top)) ++
        (roles (asLines (frontLines hasConsole autoExit)) ++
          (roles (Sections.ofLines lines).main ++
            .other :: (Sections.ofLines lines).procedureRoles)) := by
  have ends : role? "END SUB".toList = some .other := by decide +kernel
  have gap : ∀ procedures : List Text,
      roles (if procedures.isEmpty then [] else [[]]) = [] := by
    intro procedures
    split
    · rfl
    · exact List.filterMap_cons_none (role_of_blank blank_nil)
  rw [outsideRoles, outsideLines, masked_arrange hasConsole autoExit wrapping, outer_append,
    outer_append, outer_lines, middleLines, roles_append, roles_append, roles_append, roles_append,
    body_roles, roles_cons, gap, ends, List.append_assoc, List.append_assoc]
  rfl

/-- In the new program a prompt waits where one does in the main program or in the procedures. -/
theorem stalls_arrange {lines : List Text} (hasConsole autoExit : Bool)
    (wrapping : wraps lines = true) :
    Stalls (outsideRoles (arrange (Sections.ofLines lines) hasConsole autoExit)) ↔
      Stalls (roles (Sections.ofLines lines).main) ∨
        Stalls (Sections.ofLines lines).procedureRoles := by
  have waiting := Sections.waiting_of_lines lines
  have onTop : .prompt ∉ roles (outer (tagFrom 0 (Sections.ofLines lines).top)) := by
    intro member
    rcases List.mem_filterMap.mp member with ⟨line, outside, prompts⟩
    have declared := waiting.declared line ((mem_outer_iff line _).mp outside)
    rcases role_of_top declared with none | other
    · rw [none] at prompts
      cases prompts
    · rw [other] at prompts
      cases prompts
  rw [outside_roles_arrange hasConsole autoExit wrapping, stalls_behind onTop,
    stalls_behind (front_roles hasConsole autoExit), stalls_across]

/-- The wrapping parts no prompt from its wait. Where none waits, it brings the two together exactly
when the main program on its own has a prompt that waits. -/
theorem stalls_wrap (options : Options) (stamp : Text) (lines : List Text) :
    (Stalls (outsideRoles lines) → Stalls (outsideRoles (Action.wrap.perform options stamp lines))) ∧
    (¬Stalls (outsideRoles lines) →
      (Stalls (outsideRoles (Action.wrap.perform options stamp lines)) ↔
        wraps lines = true ∧ Stalls (roles (Sections.ofLines lines).main))) := by
  have waiting := Sections.waiting_of_lines lines
  rw [Action.perform, flow_control_eq]
  split
  next wrapping =>
    rw [stalls_arrange _ _ wrapping, and_iff_right wrapping]
    refine ⟨waiting.kept, fun quiet => ?_⟩
    exact or_iff_left fun stalls => quiet (waiting.old stalls)
  next idle =>
    refine ⟨id, fun quiet => ?_⟩
    exact iff_of_false quiet fun both => idle both.1

end BasicBench.Instrument
