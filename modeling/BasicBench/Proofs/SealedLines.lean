import BasicBench.Proofs.BracketActions
import BasicBench.Proofs.Neighbours

/-!
What the actions do to the quotes and parentheses of the lines. The lines that are put in are
closed, and a line that stays is as closed as it was. Only an edit inside a line and a log of an
open statement write pieces of a line anew, and there it depends on the pieces.
-/

set_option autoImplicit false

namespace BasicBench.Check

open Text Pattern Instrument

/-! Lines that are put in. -/

/-- A fixed line stays closed behind an indentation. -/
theorem sealed_behind {left text : Text} (blank : Blank left) (unbroken : Unbroken left)
    (closed : Sealed text) : Sealed (left ++ text) :=
  (sealed_indent blank (no_feed_of_unbroken unbroken) text).mpr closed

theorem sealed_calls : Sealed (pauseCall []) ∧ Sealed (exitCall []) ∧ Sealed cleanupCall ∧
    Sealed screenshotCall ∧ Sealed "$CONSOLE".toList := by
  decide +kernel

theorem sealed_empty_line : Sealed [] := sealed_of_not_code rfl

theorem sealed_screenshot {line other : Text} (added : screenshot? line = some other)
    (unbroken : Unbroken line) : Sealed other := by
  obtain ⟨-, left, more, blank, rfl, rfl⟩ := screenshot_some added
  exact sealed_behind blank (unbroken_front unbroken) sealed_calls.2.2.2.1

theorem sealed_replace_end {line : Text} (unbroken : Unbroken line) (closed : Sealed line) :
    Sealed (replaceEnd line) := by
  rcases replace_end_cases line unbroken with ⟨-, same⟩ | ⟨-, left, more, blank, split, same⟩
  · rwa [same]
  · rw [split] at unbroken
    rw [same]
    exact sealed_behind blank (unbroken_front unbroken) sealed_calls.2.1

/-! Whole programs. -/

def AllSealed (lines : List Text) : Prop := ∀ line ∈ lines, Sealed line

/-! Lines put behind others. -/

/-- A line is to be put behind some line outside blocks, because none such is there. -/
def Due (follow? : Text → Option Text) (isDone : Text → Bool) (tagged : List (Text × Bool))
    (added : Text) : Prop :=
  ∃ above line rest, tagged = above ++ (line, false) :: rest ∧ follow? line = some added ∧
    isDone (lineBelow rest) = false

section Follow

variable {follow? : Text → Option Text} {isDone : Text → Bool}

theorem mem_followers_iff {entry : Text × Bool} {below added : Text} :
    added ∈ followers follow? isDone entry below ↔
      entry.2 = false ∧ follow? entry.1 = some added ∧ isDone below = false := by
  rw [followers]
  cases entry.2 <;> cases isDone below <;> simp

theorem due_cons (entry : Text × Bool) (rest : List (Text × Bool)) (added : Text) :
    Due follow? isDone (entry :: rest) added ↔
      added ∈ followers follow? isDone entry (lineBelow rest) ∨ Due follow? isDone rest added := by
  rw [mem_followers_iff]
  constructor
  · rintro ⟨above, line, below, split, found, missing⟩
    cases above with
    | nil =>
        obtain ⟨rfl, rfl⟩ := List.cons.inj split
        exact .inl ⟨rfl, found, missing⟩
    | cons first above =>
        obtain ⟨rfl, rfl⟩ := List.cons.inj split
        exact .inr ⟨above, line, below, rfl, found, missing⟩
  · rintro (⟨outside, found, missing⟩ | ⟨above, line, below, rfl, found, missing⟩)
    · obtain ⟨line, inside⟩ := entry
      obtain rfl : inside = false := outside
      exact ⟨[], line, rest, rfl, found, missing⟩
    · exact ⟨entry :: above, line, below, rfl, found, missing⟩

theorem mem_follow_outside (tagged : List (Text × Bool)) (line : Text) :
    line ∈ followOutside follow? isDone tagged ↔
      line ∈ tagged.map (·.1) ∨ Due follow? isDone tagged line := by
  induction tagged with
  | nil =>
      have none : ¬Due follow? isDone [] line := by
        rintro ⟨above, other, rest, split, -⟩
        simp at split
      simp [followOutside, none]
  | cons entry rest induction =>
      rw [follow_outside_cons, List.mem_cons, List.mem_append, induction, due_cons,
        List.map_cons, List.mem_cons]
      tauto

theorem all_sealed_follow (lines : List Text) :
    AllSealed (followOutside follow? isDone (masked lines)) ↔
      AllSealed lines ∧ ∀ added, Due follow? isDone (masked lines) added → Sealed added := by
  simp only [AllSealed, mem_follow_outside, lines_of_masked, or_imp, forall_and]

theorem due_behind_idle {idle : List (Text × Bool)}
    (quiet : ∀ entry ∈ idle, entry.2 = false → follow? entry.1 = none)
    (rest : List (Text × Bool)) (added : Text) :
    Due follow? isDone (idle ++ rest) added ↔ Due follow? isDone rest added := by
  induction idle with
  | nil => rfl
  | cons entry idle induction =>
      have none : added ∉ followers follow? isDone entry (lineBelow (idle ++ rest)) := by
        rw [mem_followers_iff]
        rintro ⟨outside, found, -⟩
        rw [quiet entry (by simp) outside] at found
        cases found
      rw [List.cons_append, due_cons, induction fun other member => quiet other (by simp [member])]
      simp [none]

/-- A block goes where nothing is to be put behind a line. -/
theorem due_insert {block lines : List Text} (contained : Instrument.SelfContained block)
    (blank : follow? [] = none)
    (header : ∀ line, isHeader line false = true → follow? line = none) (added : Text) :
    Due follow? isDone (masked (insertBlock block lines)) added ↔
      Due follow? isDone (masked lines) added := by
  obtain ⟨above, below, inside, before, after, headers, -⟩ := masked_insert_block contained lines
  have idle : ∀ entry ∈ above, entry.2 = false → follow? entry.1 = none := by
    rintro ⟨line, side⟩ member outside
    obtain rfl : side = false := outside
    exact header line (headers _ member)
  have inBlock : ∀ entry ∈ block.map (·, true), entry.2 = false → follow? entry.1 = none := by
    rintro _ member outside
    obtain ⟨line, -, rfl⟩ := List.mem_map.mp member
    cases outside
  rw [before, after, due_behind_idle idle, due_behind_idle idle, due_behind_idle inBlock, due_cons,
    mem_followers_iff, blank]
  simp

end Follow

/-! Actions that write no line anew. -/

/-- Actions that put in closed lines, whatever the other lines are. -/
def PutsClosed : Action → Prop
  | .exchange _ | .cleanUp | .logFiles => False
  | _ => True

theorem sealed_kept (options : Options) {stamp : Text} (quoteless : '"' ∉ stamp) {action : Action}
    (puts : PutsClosed action) : KeptBy options stamp AllSealed action := by
  intro lines unbroken closed
  cases action with
  | exchange | cleanUp | logFiles => exact absurd puts id
  | normalize =>
      intro line member
      obtain ⟨other, source, rfl⟩ := List.mem_map.mp member
      rw [normalizeLine]
      split
      · exact sealed_calls.2.2.2.2
      · exact closed other source
  | direct =>
      rw [Action.perform]
      split
      · exact closed
      · exact List.forall_mem_cons.mpr ⟨sealed_calls.2.2.2.2, closed⟩
  | support feature =>
      rw [Action.perform]
      split
      · exact closed
      · intro line member
        rcases mem_insert_block.mp member with old | new | rfl
        · exact closed line old
        · exact (sound_support_block options quoteless lines feature).closed line new
        · exact sealed_empty_line
  | pause =>
      intro line member
      rcases mem_paused member with old | ⟨left, more, blank, source, rfl⟩
      · exact closed line old
      · exact sealed_behind blank (unbroken_front (unbroken _ source)) sealed_calls.1
  | exit =>
      intro line member
      rcases mem_edit_outside member with old | ⟨other, source, rfl⟩
      · exact closed line old
      · exact sealed_replace_end (unbroken other source) (closed other source)
  | wrap =>
      rw [Action.perform, flow_control_eq]
      split
      · exact arrange_closed closed _ _
      · exact closed
  | takeShots =>
      refine (all_sealed_follow lines).mpr ⟨closed, ?_⟩
      rintro added ⟨above, line, rest, split, found, -⟩
      have member : (line, false) ∈ masked lines := by simp [split]
      exact sealed_screenshot found (unbroken line (mem_of_mem_masked member))

/-- No action takes a line that is not closed away with a block. -/
theorem all_sealed_support (options : Options) {stamp : Text} (quoteless : '"' ∉ stamp)
    {lines : List Text} (unbroken : AllUnbroken lines) (feature : Feature) :
    AllSealed ((Action.support feature).perform options stamp lines) ↔ AllSealed lines := by
  have puts : PutsClosed (.support feature) := trivial
  refine ⟨fun closed line member => ?_, sealed_kept options quoteless puts lines unbroken⟩
  rw [Action.perform] at closed
  split at closed
  · exact closed line member
  · exact closed line (mem_insert_block.mpr (.inl member))

theorem all_sealed_shots (options : Options) {stamp : Text} (quoteless : '"' ∉ stamp)
    {lines : List Text} (unbroken : AllUnbroken lines) :
    AllSealed (Action.takeShots.perform options stamp lines) ↔ AllSealed lines := by
  have puts : PutsClosed .takeShots := trivial
  exact ⟨fun closed => ((all_sealed_follow lines).mp closed).1,
    sealed_kept options quoteless puts lines unbroken⟩

/-! Edits of lines. -/

/-- The lines are closed once those outside blocks are edited. -/
def SealedUnder (edit : Text → Text) (lines : List Text) : Prop :=
  ∀ entry ∈ masked lines, Sealed (if entry.2 then entry.1 else edit entry.1)

theorem sealed_under_id (lines : List Text) : SealedUnder id lines ↔ AllSealed lines := by
  rw [SealedUnder, AllSealed]
  conv => rhs; rw [← lines_of_masked lines]
  rw [List.forall_mem_map]
  simp only [id, ite_self]

theorem sealed_under_iff {lines : List Text} (closed : AllSealed lines) (edit : Text → Text) :
    SealedUnder edit lines ↔ ∀ line, Outside lines line → Sealed (edit line) := by
  constructor
  · exact fun edited line outside => edited (line, false) outside
  · rintro edited ⟨line, inside⟩ member
    cases inside with
    | true => exact closed line (mem_of_mem_masked member)
    | false => exact edited line member

section Under

variable {edit : Text → Text}

theorem sealed_under_ignores_end (empty : Sealed (edit [])) : IgnoresEnd (SealedUnder edit) := by
  intro lines
  obtain ⟨inside, split⟩ := masked_concat_blank lines
  have last : Sealed (if inside then [] else edit []) := by
    cases inside
    · exact empty
    · exact sealed_empty_line
  rw [SealedUnder, split, List.forall_mem_append, List.forall_mem_singleton]
  exact and_iff_left last

theorem sealed_under_support (edit : Text → Text) (options : Options) {stamp : Text}
    (plain : Unbroken stamp) (quoteless : '"' ∉ stamp) (empty : Sealed (edit []))
    (lines : List Text) (feature : Feature) :
    SealedUnder edit ((Action.support feature).perform options stamp lines) ↔
      SealedUnder edit lines := by
  rw [Action.perform]
  split
  · rfl
  · obtain ⟨above, below, inside, before, after, -, -⟩ :=
      masked_insert_block (contained_support options stamp plain lines feature) lines
    have blank : Sealed (if inside then [] else edit []) := by
      cases inside
      · exact empty
      · exact sealed_empty_line
    have closed : ∀ entry ∈ (supportBlock options stamp lines feature).map (·, true),
        Sealed (if entry.2 then entry.1 else edit entry.1) := by
      rw [List.forall_mem_map]
      exact (sound_support_block options quoteless lines feature).closed
    rw [SealedUnder, SealedUnder, before, after, List.forall_mem_append, List.forall_mem_append,
      List.forall_mem_cons, List.forall_mem_append]
    exact and_congr_right fun _ => ⟨fun all => all.2.2, fun old => ⟨closed, blank, old⟩⟩

theorem sealed_under_exchange (options : Options) (stamp : Text) (exchanged : Edit)
    {lines : List Text} (unbroken : AllUnbroken lines) :
    SealedUnder edit ((Action.exchange exchanged).perform options stamp lines) ↔
      SealedUnder (fun line => edit (exchanged.apply line)) lines := by
  rw [SealedUnder, Action.perform, masked_exchange exchanged lines unbroken, List.forall_mem_map]
  refine forall₂_congr fun entry _ => ?_
  obtain ⟨line, inside⟩ := entry
  cases inside <;> rfl

theorem forall_mem_guard {property : Text × Bool → Prop} (previous : Option Text)
    {tagged : List (Text × Bool)}
    (calls : ∀ entry ∈ tagged, property (indentation entry.1 ++ cleanupCall, false)) :
    (∀ entry ∈ guardTagged previous tagged, property entry) ↔
      ∀ entry ∈ tagged, property entry := by
  refine ⟨fun all entry member => all entry (mem_guard_tagged previous member), ?_⟩
  intro all entry member
  rcases guard_tagged_cases previous member with old | ⟨other, old, rfl⟩
  · exact all entry old
  · exact calls other old

/-- Cleanups are closed lines, as long as the edit leaves them alone. -/
theorem sealed_under_clean_up (options : Options) (stamp : Text)
    (cleanups : ∀ line, isCleanup line = true → edit line = line) {lines : List Text}
    (unbroken : AllUnbroken lines) :
    SealedUnder edit (Action.cleanUp.perform options stamp lines) ↔ SealedUnder edit lines := by
  rw [SealedUnder, Action.perform, masked_insert_cleanup, forall_mem_guard, SealedUnder]
  intro entry member
  have blank := blank_indentation entry.1
  have plain := unbroken_indentation (unbroken entry.1 (mem_of_mem_masked member))
  change Sealed (edit (indentation entry.1 ++ cleanupCall))
  rw [cleanups _ (cleanup_behind blank)]
  exact sealed_behind blank plain sealed_calls.2.2.1

end Under

end BasicBench.Check
