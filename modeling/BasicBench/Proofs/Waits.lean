import BasicBench.Proofs.Resting

/-!
Where a program waits for a key behind a prompt. Only the lines outside blocks count, and of these
only what each of them is to somebody at the screen: a prompt, a wait, or anything else. Blank
lines do not count. What is added next to other statements, and what is written in place of them,
makes and breaks no such wait.
-/

set_option autoImplicit false

namespace BasicBench.Instrument

open Text Pattern

/-- What a line is to somebody at the screen. -/
inductive Role where
  | prompt | wait | other
  deriving DecidableEq, Repr

/-- A blank line has no role. -/
def role? (line : Text) : Option Role :=
  if isBlank line then none
  else if promptStatement.startsText line then some .prompt
  else if sleepStatement.startsText line then some .wait
  else some .other

def roles (lines : List Text) : List Role := lines.filterMap role?

/-- Somewhere a wait comes right behind a prompt. -/
def Stalls (roles : List Role) : Prop := [.prompt, .wait] <:+: roles

instance (roles : List Role) : Decidable (Stalls roles) :=
  inferInstanceAs (Decidable (_ <:+: roles))

theorem not_stalls_nil : ¬Stalls [] := by
  rw [Stalls, List.infix_nil]
  exact List.cons_ne_nil _ _

theorem stalls_cons (role : Role) (rest : List Role) :
    Stalls (role :: rest) ↔ (role = .prompt ∧ rest.head? = some .wait) ∨ Stalls rest := by
  rw [Stalls, List.infix_cons_iff]
  apply or_congr_left
  cases rest with
  | nil => simp
  | cons next rest => simp [eq_comm]

theorem stalls_other (rest : List Role) : Stalls (.other :: rest) ↔ Stalls rest := by
  rw [stalls_cons]
  simp

/-- Roles without a prompt make no difference in front of others. -/
theorem stalls_behind {above : List Role} (none : .prompt ∉ above) (below : List Role) :
    Stalls (above ++ below) ↔ Stalls below := by
  induction above with
  | nil => rfl
  | cons role above induction =>
      rw [List.mem_cons, not_or] at none
      rw [List.cons_append, stalls_cons, induction none.2]
      exact or_iff_right fun starts => none.1 starts.1.symm

/-- Nothing waits across another statement. -/
theorem stalls_across (above below : List Role) :
    Stalls (above ++ .other :: below) ↔ Stalls above ∨ Stalls below := by
  induction above with
  | nil => simp [stalls_other, not_stalls_nil]
  | cons role above induction =>
      rw [List.cons_append, stalls_cons, stalls_cons, induction, or_assoc]
      apply or_congr_left
      cases above <;> simp

/-! The roles of lines. -/

theorem role_of_blank {line : Text} (blank : Blank line) : role? line = none := by
  rw [role?, isBlank, if_pos (List.all_eq_true.mpr blank)]

theorem solid_line {line : Text} (solid : ¬Blank line) : ¬isBlank line = true := by
  rw [isBlank, List.all_eq_true]
  exact solid

theorem role_of_prompt {line : Text} (prompts : promptStatement.startsText line = true) :
    role? line = some .prompt := by
  have solid := not_blank_of_leads (by decide) (leads_of_starts led_prompt prompts)
  rw [role?, if_neg (solid_line solid), if_pos prompts]

theorem role_of_wait {line : Text} (waits : sleepStatement.startsText line = true) :
    role? line = some .wait := by
  have leads := leads_of_starts led_sleep waits
  have prompts := not_starts_of_leads led_prompt (by decide) leads
  rw [role?, if_neg (solid_line (not_blank_of_leads (by decide) leads)), prompts,
    if_neg (by decide), if_pos waits]

/-- A word that is apart from those of prompts and waits. -/
def leadsOther (word : Text) : Bool :=
  areApart word "PRINT".toList && areApart word "SLEEP".toList

theorem role_of_leads {word line : Text} (apart : leadsOther word = true)
    (leads : Leads word line) : role? line = some .other := by
  rw [leadsOther, Bool.and_eq_true] at apart
  have headed : isHeaded word = true := by
    have both := apart.1
    rw [areApart, Bool.and_eq_true, Bool.and_eq_true] at both
    exact both.1.1
  have prompts := not_starts_of_leads led_prompt apart.1 leads
  have waits := not_starts_of_leads led_sleep apart.2 leads
  rw [role?, if_neg (solid_line (not_blank_of_leads headed leads)), prompts, waits]
  rfl

theorem role_of_calls {name line : Text} (calls : Calls name line) : role? line = some .other :=
  role_of_leads (by decide) (leads_of_calls calls)

theorem role_of_starts {word : String} {pattern : Pattern} (led : LedBy word pattern)
    (apart : leadsOther word.toList = true) {line : Text}
    (starts : pattern.startsText line = true) : role? line = some .other :=
  role_of_leads apart (leads_of_starts led starts)

theorem role_of_exit {line : Text} (exits : isExit line = true) : role? line = some .other := by
  rw [isExit, Bool.or_eq_true, Bool.or_eq_true] at exits
  rcases exits with (system | ends) | call
  · exact role_of_starts led_bare_system (by decide) system
  · exact role_of_starts led_bare_end (by decide) ends
  · exact role_of_starts led_debug_exit (by decide) call

theorem role_of_draw {line : Text} (draws : drawStatement.startsText line = true) :
    role? line = some .other := by
  rcases leads_of_draw draws with ⟨word, listed, leads⟩
  have apart : drawWords.all (fun word => leadsOther word.toList) = true := by decide
  exact role_of_leads (List.all_eq_true.mp apart word listed) leads

theorem role_prompt_iff (line : Text) :
    role? line = some .prompt ↔ promptStatement.startsText line = true := by
  constructor
  · intro role
    rw [role?] at role
    split at role
    · cases role
    · split at role
      next prompts => exact prompts
      next => split at role <;> cases role
  · exact role_of_prompt

theorem role_wait_iff (line : Text) :
    role? line = some .wait ↔ sleepStatement.startsText line = true := by
  constructor
  · intro role
    rw [role?] at role
    split at role
    · cases role
    · split at role
      · cases role
      · split at role
        next waits => exact waits
        next => cases role
  · exact role_of_wait

theorem role_none_iff (line : Text) : role? line = none ↔ Blank line := by
  constructor
  · intro role
    rw [role?] at role
    split at role
    next blank => exact List.all_eq_true.mp blank
    next => split at role <;> [cases role; (split at role <;> cases role)]
  · exact role_of_blank

/-- Behind more indentation a line has the same role. -/
theorem role_behind {left : Text} (blank : Blank left) (line : Text) :
    role? (left ++ line) = role? line := by
  have prompt : Floats promptStatement ∧ Reaches promptStatement :=
    floating_append (floating_append (floating_append (floating_append (floating_append
      (floating_append (floating_append (floating_of_takes_word (by decide)
        (takes_word_captured_start "PRINT")) _) _) _) _) _) _) _
  have sleep : Floats sleepStatement ∧ Reaches sleepStatement :=
    floating_append (floating_of_takes_word (by decide) (takes_word_start "SLEEP")) _
  have empty : isBlank (left ++ line) = isBlank line := by
    rw [isBlank, isBlank, List.all_append, List.all_eq_true.mpr blank, Bool.true_and]
  rw [role?, role?, empty, starts_text_indent prompt left line blank,
    starts_text_indent sleep left line blank]

theorem role_indent_line (line : Text) : role? (indentLine line) = role? line := by
  rcases indent_line_cases line with ⟨blank, same⟩ | same
  · rw [same, role_of_blank blank, role_of_blank blank_nil]
  · rw [same, role_behind blank_indent]

theorem roles_append (above below : List Text) : roles (above ++ below) = roles above ++ roles below :=
  List.filterMap_append

theorem roles_cons (line : Text) (lines : List Text) :
    roles (line :: lines) = (role? line).toList ++ roles lines := by
  rw [roles, List.filterMap_cons, roles]
  cases role? line <;> rfl

theorem roles_map {change : Text → Text} {lines : List Text}
    (same : ∀ line ∈ lines, role? (change line) = role? line) :
    roles (lines.map change) = roles lines := by
  rw [roles, roles, List.filterMap_map]
  exact List.filterMap_congr same

/-- A prompt waits for the first line behind it that is not blank. -/
theorem head_waits_iff (line : Text) (rest : List Text) :
    HeadWaits line false (rest.map (·, false)) ↔
      role? line = some .prompt ∧ (roles rest).head? = some .wait := by
  rw [HeadWaits, role_prompt_iff, and_iff_right rfl]
  apply and_congr_right
  intro _
  constructor
  · rintro ⟨gap, wait, after, split, blank, waits⟩
    rcases List.map_eq_append_iff.mp split with ⟨first, others, rfl, rfl, behind⟩
    rcases List.map_eq_cons_iff.mp behind with ⟨next, below, rfl, same, -⟩
    have none : roles first = [] := by
      apply List.filterMap_eq_nil_iff.mpr
      intro other member
      exact role_of_blank (blank (other, false) (List.mem_map_of_mem member))
    obtain rfl : next = wait := (Prod.mk.inj same).1
    rw [roles_append, none, roles_cons, role_of_wait waits]
    rfl
  · intro first
    induction rest with
    | nil => cases first
    | cons next rest induction =>
        rw [roles_cons] at first
        cases role : role? next with
        | none =>
            rw [role] at first
            rcases induction first with ⟨gap, wait, after, split, blank, waits⟩
            refine ⟨(next, false) :: gap, wait, after, ?_, ?_, waits⟩
            · rw [List.map_cons, split, List.cons_append]
            · intro entry member
              rcases List.mem_cons.mp member with rfl | later
              · exact (role_none_iff next).mp role
              · exact blank entry later
        | some kind =>
            rw [role] at first
            obtain rfl : kind = .wait := Option.some.inj first
            refine ⟨[], next, rest.map (·, false), rfl, ?_, (role_wait_iff next).mp role⟩
            exact fun entry member => absurd member List.not_mem_nil

/-- Outside blocks a prompt waits exactly where the roles stall. -/
theorem prompt_waits_iff (lines : List Text) :
    PromptWaits (lines.map (·, false)) ↔ Stalls (roles lines) := by
  induction lines with
  | nil =>
      apply iff_of_false _ not_stalls_nil
      rintro ⟨above, line, gap, wait, rest, split, -⟩
      simp at split
  | cons line rest induction =>
      rw [List.map_cons, prompt_waits_cons, induction, head_waits_iff, roles_cons]
      cases role : role? line with
      | none => simp
      | some kind => simp [stalls_cons]

/-! Roles that stall alike. -/

/-- Roles that stall or do not, in either case also behind a prompt. -/
structure SameStall (one other : List Role) : Prop where
  stalls : Stalls one ↔ Stalls other
  head : one.head? = some .wait ↔ other.head? = some .wait

namespace SameStall

theorem refl (roles : List Role) : SameStall roles roles := ⟨Iff.rfl, Iff.rfl⟩

theorem behind {one other : List Role} (same : SameStall one other) (first : Option Role) :
    SameStall (first.toList ++ one) (first.toList ++ other) := by
  cases first with
  | none => exact same
  | some role =>
      refine ⟨?_, Iff.rfl⟩
      simp only [Option.toList_some, List.singleton_append, stalls_cons, same.stalls, same.head]

/-- Another statement more makes no difference next to one. -/
theorem twice {one other : List Role} (same : SameStall one other) :
    SameStall (.other :: .other :: one) (.other :: other) := by
  refine ⟨?_, Iff.rfl⟩
  rw [stalls_other, stalls_other, stalls_other, same.stalls]

end SameStall

/-! The lines outside blocks. -/

/-- The texts of the entries outside blocks. -/
def outer (tagged : List (Text × Bool)) : List Text :=
  (tagged.filter fun entry => !entry.2).map (·.1)

/-- The lines outside blocks, in their order. -/
def outsideLines (lines : List Text) : List Text := outer (masked lines)

theorem outer_append (above below : List (Text × Bool)) :
    outer (above ++ below) = outer above ++ outer below := by
  rw [outer, List.filter_append, List.map_append, outer, outer]

theorem outer_inside (line : Text) (rest : List (Text × Bool)) :
    outer ((line, true) :: rest) = outer rest := rfl

theorem outer_outside (line : Text) (rest : List (Text × Bool)) :
    outer ((line, false) :: rest) = line :: outer rest := rfl

theorem outer_block (added : List Text) : outer (added.map (·, true)) = [] := by
  induction added with
  | nil => rfl
  | cons line added induction => exact induction

theorem outer_lines (lines : List Text) : outer (lines.map (·, false)) = lines := by
  induction lines with
  | nil => rfl
  | cons line lines induction =>
      rw [List.map_cons, outer_outside, induction]

theorem mem_outer_iff (line : Text) (tagged : List (Text × Bool)) :
    line ∈ outer tagged ↔ (line, false) ∈ tagged := by
  simp [outer]

theorem mem_outside_lines_iff (line : Text) (lines : List Text) :
    line ∈ outsideLines lines ↔ Outside lines line :=
  mem_outer_iff line (masked lines)

theorem outer_map (change : Text → Bool → Text) (tagged : List (Text × Bool)) :
    outer (tagged.map fun (line, inside) => (change line inside, inside)) =
      (outer tagged).map (change · false) := by
  induction tagged with
  | nil => rfl
  | cons entry rest induction =>
      rcases entry with ⟨line, inside⟩
      cases inside with
      | true => exact induction
      | false =>
          rw [outer_outside, List.map_cons, List.map_cons, ← induction]
          rfl

/-- What the lines outside blocks are to somebody at the screen. -/
def outsideRoles (lines : List Text) : List Role := roles (outsideLines lines)

theorem outside_roles_end (lines : List Text) :
    outsideRoles (lines ++ [[]]) = outsideRoles lines := by
  rcases masked_concat_blank lines with ⟨inside, split⟩
  have none : roles (outer [([], inside)]) = [] := by
    cases inside with
    | true => rfl
    | false => exact List.filterMap_cons_none (role_of_blank blank_nil)
  rw [outsideRoles, outsideLines, split, outer_append, roles_append, none, List.append_nil]
  rfl

/-! Actions on lines outside blocks. -/

theorem outside_roles_edit {edit : Text → Text} {lines : List Text}
    (plain : ∀ line, Outside lines line → ¬OpeningShape (edit line))
    (same : ∀ line, Outside lines line → role? (edit line) = role? line) :
    outsideRoles (editOutside edit lines) = outsideRoles lines := by
  rw [outsideRoles, outsideLines, masked_edit_outside edit lines plain,
    outer_map fun line inside => if inside then line else edit line]
  exact roles_map fun line member => same line ((mem_outer_iff line _).mp member)

theorem outside_roles_insert {added lines : List Text} (contained : SelfContained added) :
    outsideRoles (insertBlock added lines) = outsideRoles lines := by
  rcases masked_insert_block contained lines with ⟨above, below, inside, before, after, -, -⟩
  have none : roles (outer [([], inside)]) = [] := by
    cases inside with
    | true => rfl
    | false => exact List.filterMap_cons_none (role_of_blank blank_nil)
  rw [← List.singleton_append] at after
  rw [outsideRoles, outsideLines, outsideRoles, outsideLines, before, after, outer_append,
    outer_append, outer_append, outer_append, outer_block, List.nil_append, roles_append,
    roles_append, roles_append, none, List.nil_append]

theorem stall_guard (previous : Option Text) (tagged : List (Text × Bool)) :
    SameStall (roles (outer (guardTagged previous tagged))) (roles (outer tagged)) := by
  induction tagged generalizing previous with
  | nil => exact .refl _
  | cons entry rest induction =>
      rcases entry with ⟨line, inside⟩
      have later := induction (some line)
      rw [guardTagged, guards]
      split
      next needed =>
        simp only [Bool.and_eq_true, Bool.not_eq_true'] at needed
        rcases needed with ⟨⟨rfl, exits⟩, -⟩
        have calls := calls_cleanup (indentation line) (blank_indentation line)
        rw [List.map_singleton, List.singleton_append, outer_outside, outer_outside, outer_outside,
          roles_cons, roles_cons, roles_cons, role_of_calls calls, role_of_exit exits]
        exact later.twice
      next =>
        rw [List.map_nil, List.nil_append]
        cases inside with
        | true => exact later
        | false =>
            rw [outer_outside, outer_outside, roles_cons, roles_cons]
            exact later.behind (role? line)

theorem stall_follow {follow? : Text → Option Text} (isDone : Text → Bool)
    (others : ∀ line added, follow? line = some added →
      role? line = some .other ∧ role? added = some .other) (tagged : List (Text × Bool)) :
    SameStall (roles (outer (followTagged follow? isDone tagged))) (roles (outer tagged)) := by
  induction tagged with
  | nil => exact .refl _
  | cons entry rest induction =>
      rcases entry with ⟨line, inside⟩
      rw [followTagged]
      cases inside with
      | true =>
          rw [followers, if_pos (by rfl), List.map_nil, List.nil_append]
          exact induction
      | false =>
          rcases followers_cases follow? isDone (line, false) (lineBelow rest) with
            ⟨none, -⟩ | ⟨added, found, single⟩
          · rw [none, List.map_nil, List.nil_append, outer_outside, outer_outside, roles_cons,
              roles_cons]
            exact induction.behind (role? line)
          · rcases others line added found with ⟨here, below⟩
            rw [single, List.map_singleton, List.singleton_append, outer_outside, outer_outside,
              outer_outside, roles_cons, roles_cons, roles_cons, here, below]
            exact induction.twice

end BasicBench.Instrument
