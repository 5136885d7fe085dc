import BasicBench.Proofs.Nesting
import BasicBench.Proofs.Statements

/-!
The actions that put lines in or take lines out, with the sides of all lines. None of them
touches a block, so every line that stays keeps its side.
-/

set_option autoImplicit false

namespace BasicBench.Instrument

open Text Pattern

/-! Lines put behind others. -/

/-- The line below, which is empty at the end of a program. -/
def lineBelow : List (Text × Bool) → Text
  | [] => []
  | (next, _) :: _ => next

/-- What is added behind a line. -/
def followers (follow? : Text → Option Text) (isDone : Text → Bool) (entry : Text × Bool)
    (below : Text) : List Text :=
  if entry.2 || isDone below then [] else (follow? entry.1).toList

def followTagged (follow? : Text → Option Text) (isDone : Text → Bool) :
    List (Text × Bool) → List (Text × Bool)
  | [] => []
  | entry :: rest =>
      entry :: ((followers follow? isDone entry (lineBelow rest)).map (·, false) ++
        followTagged follow? isDone rest)

section Follow

variable (follow? : Text → Option Text) (isDone : Text → Bool)

theorem follow_outside_entry (line : Text) (inside : Bool) (rest : List (Text × Bool)) :
    followOutside follow? isDone ((line, inside) :: rest) =
      line :: (if inside then [] else match follow? line with
        | some follow => if isDone (lineBelow rest) then [] else [follow]
        | none => []) ++ followOutside follow? isDone rest := by
  cases rest <;> rfl

theorem follow_outside_cons (entry : Text × Bool) (rest : List (Text × Bool)) :
    followOutside follow? isDone (entry :: rest) =
      entry.1 :: (followers follow? isDone entry (lineBelow rest) ++
        followOutside follow? isDone rest) := by
  obtain ⟨line, inside⟩ := entry
  rw [follow_outside_entry]
  cases inside with
  | true => rfl
  | false =>
      cases found : follow? line <;> cases done : isDone (lineBelow rest) <;>
        simp [followers, found, done]

theorem lines_of_follow_tagged (tagged : List (Text × Bool)) :
    (followTagged follow? isDone tagged).map (·.1) = followOutside follow? isDone tagged := by
  induction tagged with
  | nil => rfl
  | cons entry rest induction =>
      rw [followTagged, follow_outside_cons, List.map_cons, List.map_append, induction]
      simp [Function.comp_def]

theorem mem_follow_tagged {entry : Text × Bool} {tagged : List (Text × Bool)}
    (member : entry ∈ tagged) : entry ∈ followTagged follow? isDone tagged := by
  induction tagged with
  | nil => exact member
  | cons first rest induction =>
      rw [followTagged, List.mem_cons, List.mem_append]
      rcases List.mem_cons.mp member with here | later
      · exact .inl here
      · exact .inr (.inr (induction later))

theorem mem_followers {entry : Text × Bool} {below line : Text}
    (member : line ∈ followers follow? isDone entry below) : follow? entry.1 = some line := by
  rw [followers] at member
  split at member
  · exact absurd member List.not_mem_nil
  · exact Option.mem_toList.mp member

/-- Nothing else is added than what follows some line outside blocks. -/
theorem follow_tagged_cases {entry : Text × Bool} {tagged : List (Text × Bool)}
    (member : entry ∈ followTagged follow? isDone tagged) :
    entry ∈ tagged ∨ ∃ other, (other, false) ∈ tagged ∧ follow? other = some entry.1 := by
  induction tagged with
  | nil => exact .inl member
  | cons first rest induction =>
      rw [followTagged, List.mem_cons, List.mem_append, List.mem_map] at member
      rcases member with rfl | ⟨added, new, rfl⟩ | later
      · exact .inl List.mem_cons_self
      · obtain ⟨other, inside⟩ := first
        cases inside with
        | true => exact absurd new (by simp [followers])
        | false =>
            exact .inr ⟨other, List.mem_cons_self, mem_followers follow? isDone new⟩
      · rcases induction later with old | ⟨other, old, added⟩
        · exact .inl (List.mem_cons_of_mem _ old)
        · exact .inr ⟨other, List.mem_cons_of_mem _ old, added⟩

/-- What follows a line outside blocks stands outside blocks. -/
theorem reworks_follow (tagged : List (Text × Bool))
    (plain : ∀ line other, follow? line = some other → ¬OpeningShape other)
    (outside : ∀ line, (line, false) ∈ tagged → ¬OpeningShape line) :
    Reworks tagged (followTagged follow? isDone tagged) := by
  induction tagged with
  | nil => exact .done
  | cons entry rest induction =>
      obtain ⟨line, inside⟩ := entry
      have later := induction fun other member => outside other (by simp [member])
      rw [followTagged]
      cases inside with
      | true => exact .inside line rest _ later
      | false =>
          refine .outside line (line :: followers follow? isDone (line, false) (lineBelow rest))
            rest _ ?_ later
          intro other member
          rcases List.mem_cons.mp member with rfl | added
          · exact outside other (by simp)
          · exact plain line other (mem_followers follow? isDone added)

theorem masked_follow_outside (lines : List Text)
    (plain : ∀ line other, follow? line = some other → ¬OpeningShape other) :
    masked (followOutside follow? isDone (masked lines)) =
      followTagged follow? isDone (masked lines) := by
  have same := masked_of_reworks (reworks_follow follow? isDone (masked lines) plain
    fun line member => not_opening_of_outside member)
  rwa [lines_of_follow_tagged] at same

/-- Where a reading passes over what is put in, it reads the same in the same order. -/
theorem readings_follow {β : Type} {read : Text → Option β}
    (quiet : ∀ line other, follow? line = some other → read other = none)
    (tagged : List (Text × Bool)) :
    (followOutside follow? isDone tagged).filterMap read = (tagged.map (·.1)).filterMap read := by
  induction tagged with
  | nil => rfl
  | cons entry rest induction =>
      have none : (followers follow? isDone entry (lineBelow rest)).filterMap read = [] :=
        List.filterMap_eq_nil_iff.mpr fun line member =>
          quiet _ _ (mem_followers follow? isDone member)
      rw [follow_outside_cons, List.map_cons, List.filterMap_cons, List.filterMap_cons,
        List.filterMap_append, none, List.nil_append, induction]

end Follow

/-! Cleanups in front of exits. -/

/-- What is added in front of a line. -/
def guards (previous : Option Text) (entry : Text × Bool) : List Text :=
  if !entry.2 && isExit entry.1 && !previous.any isCleanup then
    [indentation entry.1 ++ cleanupCall]
  else []

/-- Nothing is added in a block. -/
theorem guards_inside (previous : Option Text) (line : Text) : guards previous (line, true) = [] := by
  simp [guards]

def guardTagged (previous : Option Text) : List (Text × Bool) → List (Text × Bool)
  | [] => []
  | entry :: rest =>
      (guards previous entry).map (·, false) ++ entry :: guardTagged (some entry.1) rest

theorem lines_of_guard_tagged (previous : Option Text) (tagged : List (Text × Bool)) :
    (guardTagged previous tagged).map (·.1) = insertCleanup previous tagged := by
  induction tagged generalizing previous with
  | nil => rfl
  | cons entry rest induction =>
      obtain ⟨line, inside⟩ := entry
      rw [guardTagged, insertCleanup, List.map_append, List.map_cons, induction, guards]
      split <;> rfl

theorem mem_guard_tagged (previous : Option Text) {entry : Text × Bool}
    {tagged : List (Text × Bool)} (member : entry ∈ tagged) :
    entry ∈ guardTagged previous tagged := by
  induction tagged generalizing previous with
  | nil => exact member
  | cons first rest induction =>
      rw [guardTagged, List.mem_append, List.mem_cons]
      rcases List.mem_cons.mp member with here | later
      · exact .inr (.inl here)
      · exact .inr (.inr (induction _ later))

theorem mem_guards {previous : Option Text} {entry : Text × Bool} {line : Text}
    (member : line ∈ guards previous entry) :
    entry.2 = false ∧ isExit entry.1 = true ∧ line = indentation entry.1 ++ cleanupCall := by
  rw [guards] at member
  split at member
  next needed =>
    simp only [Bool.and_eq_true, Bool.not_eq_true'] at needed
    exact ⟨needed.1.1, needed.1.2, List.mem_singleton.mp member⟩
  next => exact absurd member List.not_mem_nil

/-- Nothing else is added than cleanups, each indented as one of the old lines. -/
theorem guard_tagged_cases (previous : Option Text) {entry : Text × Bool}
    {tagged : List (Text × Bool)} (member : entry ∈ guardTagged previous tagged) :
    entry ∈ tagged ∨ ∃ other ∈ tagged, entry = (indentation other.1 ++ cleanupCall, false) := by
  induction tagged generalizing previous with
  | nil => exact .inl member
  | cons first rest induction =>
      rw [guardTagged, List.mem_append, List.mem_map, List.mem_cons] at member
      rcases member with ⟨added, new, rfl⟩ | rfl | later
      · obtain ⟨-, -, rfl⟩ := mem_guards new
        exact .inr ⟨first, List.mem_cons_self, rfl⟩
      · exact .inl List.mem_cons_self
      · rcases induction _ later with old | ⟨other, old, same⟩
        · exact .inl (List.mem_cons_of_mem _ old)
        · exact .inr ⟨other, List.mem_cons_of_mem _ old, same⟩

theorem not_opening_of_calls {name line : Text} (calls : Calls name line) :
    ¬OpeningShape line := by
  rw [← opening_iff, marker_kind_of_leads (leads_of_calls calls) (by decide)]
  simp

theorem reworks_guard (previous : Option Text) (tagged : List (Text × Bool))
    (outside : ∀ line, (line, false) ∈ tagged → ¬OpeningShape line) :
    Reworks tagged (guardTagged previous tagged) := by
  induction tagged generalizing previous with
  | nil => exact .done
  | cons entry rest induction =>
      obtain ⟨line, inside⟩ := entry
      have later := induction (some line) fun other member => outside other (by simp [member])
      rw [guardTagged]
      cases inside with
      | true =>
          rw [guards_inside]
          exact .inside line rest _ later
      | false =>
          have shape : (guards previous (line, false)).map (·, false) ++
              (line, false) :: guardTagged (some line) rest =
              (guards previous (line, false) ++ [line]).map (·, false) ++
                guardTagged (some line) rest := by simp
          rw [shape]
          refine .outside line (guards previous (line, false) ++ [line]) rest _ ?_ later
          intro other member
          rcases List.mem_append.mp member with added | same
          · obtain ⟨-, -, rfl⟩ := mem_guards added
            exact not_opening_of_calls (calls_cleanup _ (blank_indentation line))
          · rw [List.mem_singleton.mp same]
            exact outside line (by simp)

theorem masked_insert_cleanup (lines : List Text) :
    masked (insertCleanup none (masked lines)) = guardTagged none (masked lines) := by
  have same := masked_of_reworks (reworks_guard none (masked lines)
    fun line member => not_opening_of_outside member)
  rwa [lines_of_guard_tagged] at same

theorem readings_guard {β : Type} {read : Text → Option β}
    (quiet : ∀ left, Blank left → read (left ++ cleanupCall) = none) (previous : Option Text)
    (tagged : List (Text × Bool)) :
    (insertCleanup previous tagged).filterMap read = (tagged.map (·.1)).filterMap read := by
  rw [← lines_of_guard_tagged]
  induction tagged generalizing previous with
  | nil => rfl
  | cons entry rest induction =>
      have none : (guards previous entry).filterMap read = [] := by
        refine List.filterMap_eq_nil_iff.mpr fun line member => ?_
        obtain ⟨-, -, rfl⟩ := mem_guards member
        exact quiet _ (blank_indentation entry.1)
      have texts : ((guards previous entry).map (·, false)).map (·.1) = guards previous entry := by
        simp [Function.comp_def]
      rw [guardTagged, List.map_append, texts, List.filterMap_append, none, List.nil_append,
        List.map_cons, List.map_cons, List.filterMap_cons, List.filterMap_cons, induction]

/-! Pauses in place of waits. -/

/-- A pause in place of each prompt that a wait follows, the blank lines between them gone with
the wait. All of this stands outside blocks. -/
inductive Pauses : List (Text × Bool) → List (Text × Bool) → Prop
  | done : Pauses [] []
  | keep (entry : Text × Bool) (rest out : List (Text × Bool)) (next : Pauses rest out) :
      Pauses (entry :: rest) (entry :: out)
  | pause (line indent wait : Text) (gap : List Text) (rest out : List (Text × Bool))
      (prompts : promptStatement.startsText line = true) (blank : Blank indent)
      (opens : ∃ more, line = indent ++ more) (empty : ∀ other ∈ gap, Blank other)
      (waits : sleepStatement.startsText wait = true)
      (next : Pauses rest out) :
      Pauses ((line, false) :: (gap.map (·, false) ++ (wait, false) :: rest))
        ((pauseCall indent, false) :: out)

/-- Nothing else comes in than pauses, each in the indentation of an old line outside blocks. -/
theorem pauses_cases {before after : List (Text × Bool)} (pauses : Pauses before after)
    {entry : Text × Bool} (member : entry ∈ after) :
    entry ∈ before ∨ ∃ indent more, Blank indent ∧ (indent ++ more, false) ∈ before ∧
      entry = (pauseCall indent, false) := by
  induction pauses with
  | done => exact .inl member
  | keep first rest out _ induction =>
      rcases List.mem_cons.mp member with rfl | later
      · exact .inl List.mem_cons_self
      · rcases induction later with old | ⟨indent, more, blank, old, same⟩
        · exact .inl (List.mem_cons_of_mem _ old)
        · exact .inr ⟨indent, more, blank, List.mem_cons_of_mem _ old, same⟩
  | pause line indent wait gap rest out _ blank opens _ _ _ induction =>
      rcases List.mem_cons.mp member with rfl | later
      · obtain ⟨more, rfl⟩ := opens
        exact .inr ⟨indent, more, blank, List.mem_cons_self, rfl⟩
      · rcases induction later with old | ⟨other, more, blank, old, same⟩
        · exact .inl (by simp [old])
        · exact .inr ⟨other, more, blank, by simp [old], same⟩

theorem prompt_indent_some {line indent : Text} {inside : Bool}
    (found : promptIndent? line inside = some indent) :
    inside = false ∧ promptStatement.startsText line = true ∧ Blank indent ∧
      ∃ more, line = indent ++ more := by
  rw [promptIndent?] at found
  split at found
  · exact absurd found (by simp)
  next outside =>
    obtain ⟨match', matched, rfl⟩ := Option.map_eq_some_iff.mp found
    refine ⟨by simpa using outside, ?_, group_of_indented indented_prompt matched⟩
    rw [startsText, matched]
    rfl

/-- Blank lines below a line outside blocks stand outside too. -/
theorem skip_blank_split (depth : Nat) (tagged : List (Text × Bool)) (closed : depth = 0)
    (nested : Nested depth tagged) :
    ∃ gap : List Text, tagged = gap.map (·, false) ++ skipBlank tagged ∧
      ∀ line ∈ gap, Blank line := by
  subst closed
  induction tagged with
  | nil => exact ⟨[], rfl, by simp⟩
  | cons entry rest induction =>
      obtain ⟨line, inside⟩ := entry
      by_cases empty : (trim line).isEmpty = true
      · have blank := (trim_eq_nil_iff line).mp (List.isEmpty_iff.mp empty)
        have outside : isInside 0 line = false :=
          (outside_iff 0 line).mpr ⟨rfl, not_opening_of_blank line blank⟩
        rw [nested_cons_iff, depth_after_outside 0 line outside, outside] at nested
        obtain ⟨gap, split, blanks⟩ := induction nested.2
        refine ⟨line :: gap, ?_, by simpa using ⟨blank, blanks⟩⟩
        have skipped : skipBlank ((line, inside) :: rest) = skipBlank rest := by
          simp only [skipBlank, List.dropWhile_cons, empty, if_true]
        rw [skipped, ← nested.1, List.map_cons, List.cons_append, ← split]
      · have stays : skipBlank ((line, inside) :: rest) = (line, inside) :: rest := by
          simp only [skipBlank, List.dropWhile_cons, empty, Bool.false_eq_true, if_false]
        exact ⟨[], by rw [stays]; rfl, by simp⟩

theorem pauses_of_replace (depth : Nat) (tagged : List (Text × Bool))
    (nested : Nested depth tagged) :
    ∃ out, Pauses tagged out ∧ out.map (·.1) = replaceWaits tagged := by
  fun_induction replaceWaits tagged generalizing depth with
  | case1 => exact ⟨[], .done, rfl⟩
  | case2 line inside rest none induction =>
      rw [nested_cons_iff] at nested
      obtain ⟨out, pauses, texts⟩ := induction _ nested.2
      exact ⟨(line, inside) :: out, .keep _ rest out pauses, by rw [List.map_cons, texts]⟩
  | case3 line inside rest indent found empty induction =>
      rw [nested_cons_iff] at nested
      obtain ⟨out, pauses, texts⟩ := induction _ nested.2
      exact ⟨(line, inside) :: out, .keep _ rest out pauses, by rw [List.map_cons, texts]⟩
  | case4 line inside rest indent found next nextInside after skipped waits induction =>
      obtain ⟨rfl, prompts, blank, opens⟩ := prompt_indent_some found
      simp only [Bool.and_eq_true, Bool.not_eq_true'] at waits
      obtain ⟨rfl, sleeps⟩ := waits
      rw [nested_cons_iff] at nested
      have closed := depth_after_outside depth line nested.1
      obtain ⟨gap, split, blanks⟩ := skip_blank_split _ rest closed nested.2
      rw [skipped] at split
      have later := nested.2
      rw [closed, split, nested_outside_lines gap fun other member =>
        not_opening_of_blank other (blanks other member), nested_cons_iff] at later
      obtain ⟨out, pauses, texts⟩ := induction _ later.2
      refine ⟨(pauseCall indent, false) :: out, ?_, by rw [List.map_cons, texts]⟩
      rw [split]
      exact .pause line indent next gap after out prompts blank opens blanks sleeps pauses
  | case5 line inside rest indent found next nextInside after skipped other induction =>
      rw [nested_cons_iff] at nested
      obtain ⟨out, pauses, texts⟩ := induction _ nested.2
      exact ⟨(line, inside) :: out, .keep _ rest out pauses, by rw [List.map_cons, texts]⟩

theorem reworks_without (gap : List Text) (rest out : List (Text × Bool))
    (reworks : Reworks rest out) : Reworks (gap.map (·, false) ++ rest) out := by
  induction gap with
  | nil => exact reworks
  | cons line gap induction => exact .outside line [] _ _ (by simp) induction

theorem reworks_of_pauses {before after : List (Text × Bool)} (pauses : Pauses before after)
    (outside : ∀ line, (line, false) ∈ before → ¬OpeningShape line) : Reworks before after := by
  induction pauses with
  | done => exact .done
  | keep entry rest out _ induction =>
      have later := induction fun line member => outside line (by simp [member])
      obtain ⟨line, inside⟩ := entry
      cases inside with
      | true => exact .inside line rest out later
      | false =>
          refine .outside line [line] rest out ?_ later
          intro other member
          rw [List.mem_singleton.mp member]
          exact outside line (by simp)
  | pause line indent wait gap rest out _ blank _ _ _ _ induction =>
      have later := induction fun other member => outside other (by simp [member])
      refine .outside line [pauseCall indent] _ _ ?_
        (reworks_without gap _ out (.outside wait [] rest out (by simp) later))
      intro other member
      rw [List.mem_singleton.mp member]
      exact not_opening_of_calls (calls_pause indent blank)

theorem masked_replace_waits (lines : List Text) :
    Pauses (masked lines) (masked (replaceWaits (masked lines))) := by
  obtain ⟨out, pauses, texts⟩ := pauses_of_replace 0 (masked lines) (nested_masked lines)
  have same := masked_of_reworks (reworks_of_pauses pauses
    fun line member => not_opening_of_outside member)
  rw [texts] at same
  rwa [same]

theorem readings_pauses {β : Type} {read : Text → Option β} {before after : List (Text × Bool)}
    (pauses : Pauses before after) (empty : ∀ line, Blank line → read line = none)
    (prompt : ∀ line, promptStatement.startsText line = true → read line = none)
    (wait : ∀ line, sleepStatement.startsText line = true → read line = none)
    (pause : ∀ left, Blank left → read (pauseCall left) = none) :
    (after.map (·.1)).filterMap read = (before.map (·.1)).filterMap read := by
  induction pauses with
  | done => rfl
  | keep entry rest out _ induction =>
      rw [List.map_cons, List.map_cons, List.filterMap_cons, List.filterMap_cons, induction]
  | pause line indent next gap rest out prompts blank _ blanks waits _ induction =>
      have none : gap.filterMap read = [] :=
        List.filterMap_eq_nil_iff.mpr fun other member => empty other (blanks other member)
      have texts : (gap.map (·, false)).map (·.1) = gap := by simp [Function.comp_def]
      rw [List.map_cons, List.map_cons, List.map_append, texts, List.map_cons,
        List.filterMap_cons_none (pause indent blank),
        List.filterMap_cons_none (prompt line prompts), List.filterMap_append, none,
        List.nil_append, List.filterMap_cons_none (wait next waits), induction]

/-! Edits. -/

theorem readings_edit_outside {β : Type} {read : Text → Option β} {edit : Text → Text}
    {lines : List Text}
    (same : ∀ line, (line, false) ∈ masked lines → read (edit line) = read line) :
    (editOutside edit lines).filterMap read = lines.filterMap read := by
  rw [editOutside, List.filterMap_map]
  conv => rhs; rw [← lines_of_masked lines]
  rw [List.filterMap_map]
  refine List.filterMap_congr fun entry member => ?_
  obtain ⟨line, inside⟩ := entry
  cases inside with
  | true => rfl
  | false => exact same line member

/-! Exits in place of ends. -/

/-- Behind its first character a line keeps what only its beginning could match. -/
theorem rewrites_behind_start {pattern : Pattern} {write : Found → Text}
    (atStart : ∀ c piece rest, ¬pattern.Takes (some c) piece rest) {c : Char} {text out : Text}
    (rewrites : pattern.Rewrites write (some c) text out) : out = text := by
  generalize before : some c = before at rewrites
  induction rewrites generalizing c with
  | done => rfl
  | keep _ d rest out _ _ induction => rw [induction rfl]
  | swap _ piece rest out found _ reads _ _ =>
      subst before
      exact absurd ⟨_, reads⟩ (atStart c piece rest)

theorem bare_end_takes {before : Option Char} {piece rest : Text}
    (taken : bareEnd.Takes before piece rest) :
    before = none ∧ piece ≠ [] ∧ (rest = [] ∨ rest = ['\n']) := by
  simp only [bareEnd, takes_append, takes_text_start, takes_capture, takes_blanks, takes_any_case,
    takes_text_end] at taken
  obtain ⟨_, _, rfl, ⟨_, gap, rfl, ⟨_, form, rfl, ⟨_, left, rfl, ⟨rfl, start⟩, -⟩, same⟩, -⟩, rfl,
    ending⟩ := taken
  refine ⟨start, ?_, ending⟩
  intro nothing
  have noForm : form = [] := by
    simp only [List.append_eq_nil_iff] at nothing
    exact nothing.1.1.2
  rw [noForm, show "END".toList = 'E' :: "ND".toList by decide] at same
  cases same

theorem bare_end_rewrites (line : Text) :
    bareEnd.Rewrites (fun found => exitCall (found.group 1)) none line (replaceEnd line) :=
  rewrites_replace_all bareEnd (fun found => exitCall (found.group 1))
    (fun _ _ taken => (bare_end_takes taken).2.1 rfl) line

/-- A line that is no end stays. -/
theorem replace_end_stays {line : Text} (other : bareEnd.startsText line = false) :
    replaceEnd line = line := by
  have atStart : ∀ c piece rest, ¬bareEnd.Takes (some c) piece rest := fun c piece rest taken =>
    absurd (bare_end_takes taken).1 (by simp)
  have rewrites := bare_end_rewrites line
  generalize replaceEnd line = out at rewrites
  cases rewrites with
  | done => rfl
  | keep _ c rest out _ next => rw [rewrites_behind_start atStart next]
  | swap _ piece rest out found _ reads _ =>
      have starts : bareEnd.startsText (piece ++ rest) = true :=
        (starts_text_iff ..).mpr ⟨piece, rest, rfl, _, reads⟩
      rw [other] at starts
      exact absurd starts (by decide)

/-- An end becomes an exit behind its indentation, and other lines stay. -/
theorem replace_end_cases (line : Text) (unbroken : Unbroken line) :
    (bareEnd.startsText line = false ∧ replaceEnd line = line) ∨
      (bareEnd.startsText line = true ∧ ∃ left more, Blank left ∧ line = left ++ more ∧
        replaceEnd line = exitCall left) := by
  cases starts : bareEnd.startsText line with
  | false => exact .inl ⟨rfl, replace_end_stays starts⟩
  | true =>
      obtain ⟨piece, after, split, taken⟩ := (starts_text_iff ..).mp starts
      have rewrites := bare_end_rewrites line
      generalize replaceEnd line = out at rewrites
      cases rewrites with
      | done => exact absurd starts (by decide)
      | keep _ c rest out none _ => exact absurd taken (none piece after split)
      | swap _ piece rest out found _ reads next =>
          obtain ⟨left, more, blank, rfl, group⟩ := indented_bare_end _ _ _ reads
          have same : found.group 1 = left := by
            rw [Found.group, Found.group?, group, Option.getD_some]
          have ending : rest = [] := by
            rcases (bare_end_takes ⟨_, reads⟩).2.2 with nothing | feed
            · exact nothing
            · rw [feed, unbroken_append] at unbroken
              exact absurd (unbroken.2 '\n' (by simp)) (by decide)
          subst ending
          refine .inr ⟨rfl, left, more, blank, by simp, ?_⟩
          rw [same, rewrites_nil next, List.append_nil]

end BasicBench.Instrument
