import BasicBench.Proofs.Waits

/-!
Prompts and waits while pauses are put in place of them. A pause takes the place of a prompt and
its wait when no block stands between the two. In a program that has its blocks among the header
lines none does, so behind the replacement no prompt has a wait any more.
-/

set_option autoImplicit false

namespace BasicBench.Instrument

open Text Pattern

/-! Programs whose blocks stand among the header lines. -/

/-- Below the header lines no line stands in a block. -/
def Fronted (lines : List Text) : Prop :=
  ∃ (above : List (Text × Bool)) (below : List Text), masked lines = above ++ below.map (·, false) ∧
    ∀ entry ∈ above, isHeader entry.1 entry.2 = true

theorem fronted_of_unmarked {lines : List Text}
    (unmarked : ∀ line ∈ lines, markerKind? line = none) : Fronted lines :=
  ⟨[], lines, masked_of_unmarked unmarked, fun _ member => absurd member List.not_mem_nil⟩

/-- A block that comes in stands among the header lines, as everything above it does. -/
theorem fronted_insert {added lines : List Text} (contained : SelfContained added)
    (unmarked : ∀ line ∈ lines, markerKind? line = none) : Fronted (insertBlock added lines) := by
  rcases masked_insert_block contained lines with ⟨above, below, side, before, after, headers, -⟩
  rw [masked_of_unmarked unmarked] at before
  rcases List.map_eq_append_iff.mp before with ⟨-, others, -, -, rfl⟩
  rw [← List.singleton_append, ← List.append_assoc, ← List.append_assoc] at after
  refine ⟨above ++ added.map (·, true) ++ [([], side)], others, after, ?_⟩
  rw [List.forall_mem_append, List.forall_mem_append]
  refine ⟨⟨headers, ?_⟩, ?_⟩
  · intro entry member
    rcases List.mem_map.mp member with ⟨line, -, rfl⟩
    rfl
  · intro entry member
    rw [List.mem_singleton.mp member]
    cases side <;> rfl

theorem header_no_prompt {line : Text} (header : isHeader line false = true) :
    promptStatement.startsText line = false := by
  cases prompts : promptStatement.startsText line with
  | false => rfl
  | true =>
      have leads := leads_of_starts led_prompt prompts
      rw [show "PRINT".toList = 'P' :: "RINT".toList by decide] at leads
      exact absurd leads (header_not_led header (by decide) (by decide))

/-! Pauses. -/

theorem outer_of_outside {tagged : List (Text × Bool)} (outside : ∀ entry ∈ tagged, entry.2 = false) :
    outer tagged = tagged.map (·.1) := by
  rw [outer, List.filter_eq_self.mpr]
  intro entry member
  rw [outside entry member]
  rfl

theorem header_stays {line : Text} {inside : Bool} (header : isHeader line inside = true)
    (rest : List (Text × Bool)) :
    replaceWaits ((line, inside) :: rest) = line :: replaceWaits rest := by
  have none : promptIndent? line inside = none := by
    cases inside with
    | true => rfl
    | false =>
        have stays := header_no_prompt header
        rw [promptIndent?, if_neg (by decide), Option.map_eq_none_iff]
        rwa [startsText, Option.isSome_eq_false_iff, Option.isNone_iff_eq_none] at stays
  rw [replaceWaits, none]

theorem headers_stay {above : List (Text × Bool)}
    (headers : ∀ entry ∈ above, isHeader entry.1 entry.2 = true) (rest : List (Text × Bool)) :
    replaceWaits (above ++ rest) = above.map (·.1) ++ replaceWaits rest := by
  induction above with
  | nil => rfl
  | cons first above induction =>
      rw [List.forall_mem_cons] at headers
      rw [List.cons_append, header_stays headers.1, induction headers.2]
      rfl

/-- Pauses come in behind the header lines. -/
theorem pauses_behind_headers {above rest after : List (Text × Bool)}
    (headers : ∀ entry ∈ above, isHeader entry.1 entry.2 = true)
    (pauses : Pauses (above ++ rest) after) :
    ∃ out, after = above ++ out ∧ Pauses rest out := by
  induction above generalizing after with
  | nil => exact ⟨after, rfl, pauses⟩
  | cons first above induction =>
      rw [List.forall_mem_cons] at headers
      generalize whole : (first :: above) ++ rest = before at pauses
      cases pauses with
      | done => cases whole
      | keep entry later out next =>
          rw [List.cons_append, List.cons.injEq] at whole
          rcases whole with ⟨rfl, rfl⟩
          rcases induction headers.2 next with ⟨more, rfl, pauses⟩
          exact ⟨more, rfl, pauses⟩
      | pause line indent wait gap later out prompts =>
          rw [List.cons_append, List.cons.injEq] at whole
          have header := headers.1
          rw [whole.1] at header
          rw [header_no_prompt header] at prompts
          cases prompts

theorem outside_of_pauses {before after : List (Text × Bool)} (pauses : Pauses before after)
    (outside : ∀ entry ∈ before, entry.2 = false) : ∀ entry ∈ after, entry.2 = false := by
  intro entry member
  rcases pauses_cases pauses member with old | ⟨indent, more, -, -, rfl⟩
  · exact outside entry old
  · rfl

/-- The replacement does not touch the header lines. -/
theorem outside_lines_replaced {lines : List Text} {above : List (Text × Bool)} {below : List Text}
    (split : masked lines = above ++ below.map (·, false))
    (headers : ∀ entry ∈ above, isHeader entry.1 entry.2 = true) :
    outsideLines (replaceWaits (masked lines)) =
      outer above ++ replaceWaits (below.map (·, false)) := by
  have pauses := masked_replace_waits lines
  have texts := lines_of_masked (replaceWaits (masked lines))
  rw [split] at pauses texts
  rcases pauses_behind_headers headers pauses with ⟨out, after, behind⟩
  have outside : ∀ entry ∈ out, entry.2 = false := by
    apply outside_of_pauses behind
    intro entry member
    rcases List.mem_map.mp member with ⟨line, -, rfl⟩
    rfl
  rw [after, List.map_append, headers_stay headers, List.append_cancel_left_eq] at texts
  rw [outsideLines, split, after, outer_append, outer_of_outside outside, texts]

theorem promptIndent_none_iff (line : Text) :
    promptIndent? line false = none ↔ role? line ≠ some .prompt := by
  rw [promptIndent?, if_neg (by decide), Option.map_eq_none_iff, ne_eq, role_prompt_iff, startsText,
    Bool.not_eq_true, Option.isSome_eq_false_iff, Option.isNone_iff_eq_none]

/-- The first role behind blank lines is that of the first line that is not blank. -/
theorem head_of_skipped (tagged : List (Text × Bool)) :
    (roles (tagged.map (·.1))).head? = (skipBlank tagged).head?.bind (role? ·.1) := by
  induction tagged with
  | nil => rfl
  | cons entry rest induction =>
      rcases entry with ⟨line, inside⟩
      rw [List.map_cons, roles_cons, skipBlank, List.dropWhile_cons]
      dsimp only
      split
      next empty =>
        have blank := (trim_eq_nil_iff line).mp (List.isEmpty_iff.mp empty)
        rw [role_of_blank blank]
        exact induction
      next filled =>
        cases role : role? line with
        | none =>
            have blank := (role_none_iff line).mp role
            exact absurd (List.isEmpty_iff.mpr ((trim_eq_nil_iff line).mpr blank)) filled
        | some kind => exact role.symm

/-- A line stays, and so does what comes first, unless the line is a prompt with a wait. -/
theorem no_wait_kept {line : Text} (inside : Bool) {rest : List (Text × Bool)} {out : List Text}
    (apart : role? line = some .prompt → (roles (rest.map (·.1))).head? ≠ some .wait)
    (none : ¬Stalls (roles out))
    (later : (roles out).head? = some .wait → (roles (rest.map (·.1))).head? = some .wait) :
    ¬Stalls (roles (line :: out)) ∧ ((roles (line :: out)).head? = some .wait →
      (roles (((line, inside) :: rest).map (·.1))).head? = some .wait) := by
  rw [List.map_cons, roles_cons, roles_cons]
  cases role : role? line with
  | none => exact ⟨none, later⟩
  | some kind =>
      refine ⟨?_, id⟩
      rw [Option.toList_some, List.singleton_append, stalls_cons, not_or, not_and]
      exact ⟨fun prompts first => apart (by rw [role, prompts]) (later first), none⟩

/-- Behind the replacement no prompt has a wait, and no wait comes to the front. -/
theorem no_wait_replaced (tagged : List (Text × Bool)) (outside : ∀ entry ∈ tagged, entry.2 = false) :
    ¬Stalls (roles (replaceWaits tagged)) ∧
      ((roles (replaceWaits tagged)).head? = some .wait →
        (roles (tagged.map (·.1))).head? = some .wait) := by
  fun_induction replaceWaits tagged with
  | case1 => exact ⟨not_stalls_nil, id⟩
  | case2 line inside rest none induction =>
      rw [List.forall_mem_cons] at outside
      rw [show inside = false from outside.1, promptIndent_none_iff] at none
      have later := induction outside.2
      exact no_wait_kept inside (absurd · none) later.1 later.2
  | case3 line inside rest indent found empty induction =>
      rw [List.forall_mem_cons] at outside
      have later := induction outside.2
      refine no_wait_kept inside (fun _ => ?_) later.1 later.2
      rw [head_of_skipped, empty]
      exact Option.some_ne_none _ ∘ Eq.symm
  | case4 line inside rest indent found next nextInside after skipped waits induction =>
      rw [List.forall_mem_cons] at outside
      have behind : ∀ entry ∈ after, entry.2 = false := by
        intro entry member
        apply outside.2
        apply (List.dropWhile_sublist _).subset
        rw [← skipBlank, skipped]
        exact List.mem_cons_of_mem _ member
      have calls := calls_pause indent (prompt_indent_some found).2.2.1
      rw [roles_cons, role_of_calls calls, Option.toList_some, List.singleton_append, stalls_other]
      refine ⟨(induction behind).1, fun first => ?_⟩
      cases first
  | case5 line inside rest indent found next nextInside after skipped other induction =>
      rw [List.forall_mem_cons] at outside
      have later := induction outside.2
      refine no_wait_kept inside (fun _ first => ?_) later.1 later.2
      have nextOutside : nextInside = false := by
        apply outside.2 (next, nextInside)
        apply (List.dropWhile_sublist _).subset
        rw [← skipBlank, skipped]
        exact List.mem_cons_self
      rw [head_of_skipped, skipped] at first
      rw [nextOutside, (role_wait_iff next).mp first] at other
      exact other rfl

/-- Once the pauses are in place of the waits, no prompt has a wait. -/
theorem replaced_waits {lines : List Text} (fronted : Fronted lines) :
    ¬Stalls (outsideRoles (replaceWaits (masked lines))) := by
  rcases fronted with ⟨above, below, split, headers⟩
  have none : .prompt ∉ roles (outer above) := by
    intro member
    rcases List.mem_filterMap.mp member with ⟨line, outside, prompts⟩
    rw [mem_outer_iff] at outside
    rw [role_prompt_iff, header_no_prompt (headers (line, false) outside)] at prompts
    cases prompts
  have outside : ∀ entry ∈ below.map (·, false), entry.2 = false := by
    intro entry member
    rcases List.mem_map.mp member with ⟨line, -, rfl⟩
    rfl
  rw [outsideRoles, outside_lines_replaced split headers, roles_append, stalls_behind none]
  exact (no_wait_replaced _ outside).1

end BasicBench.Instrument
