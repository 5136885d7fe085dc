import BasicBench.Proofs.Exits
import Mathlib.Data.List.Chain

/-!
Lines and their neighbours. An exit is guarded by the cleanup above it, an open statement and a
statement that draws are answered by the call below. A pass that adds such calls leaves every line
guarded or answered, and later passes put nothing between a line and the neighbour it needs.
-/

set_option autoImplicit false

namespace BasicBench.Instrument

open Text Pattern

/-- What stands above the first line of a program and below the last one. -/
def border : Text × Bool := ([], true)

/-- An exit outside blocks has a cleanup above it. -/
def Guards (above entry : Text × Bool) : Prop :=
  entry.2 = false → isExit entry.1 = true → isCleanup above.1 = true

/-- A line outside blocks that passes a check has a line below it that answers. -/
def AnsweredBy (check isDone : Text → Bool) (entry below : Text × Bool) : Prop :=
  entry.2 = false → check entry.1 = true → isDone below.1 = true

def Guarded (lines : List Text) : Prop := (border :: masked lines).IsChain Guards

def Answered (check isDone : Text → Bool) (lines : List Text) : Prop :=
  (masked lines ++ [border]).IsChain (AnsweredBy check isDone)

/-! Exits and the cleanups above them. -/

/-- The line at which a block ends is its marker. -/
theorem closing_of_change {depth : Nat} {line next : Text} {rest : List (Text × Bool)}
    (nested : Nested depth ((line, true) :: (next, false) :: rest)) :
    markerKind? line = some .closing := by
  rw [nested_cons_iff, nested_cons_iff] at nested
  obtain ⟨inside, outside, -⟩ := nested
  obtain ⟨closed, -⟩ := (outside_iff _ next).mp outside
  rw [isInside] at inside
  cases told : markerKind? line with
  | none =>
      rw [depthAfter, told] at closed
      simp [told, show depth = 0 from closed] at inside
  | some kind =>
      cases kind with
      | opening =>
          rw [depthAfter, told] at closed
          exact absurd closed (by simp)
      | closing => rfl

/-- An exit right below the header has no cleanup above it. -/
theorem header_guards_nothing {above below : List (Text × Bool)} {entry : Text × Bool}
    (nested : Nested 0 (above ++ entry :: below)) (outside : entry.2 = false)
    (headers : ∀ entry ∈ above, isHeader entry.1 entry.2 = true) (last : Text × Bool)
    (here : last ∈ (border :: above).getLast?) : isCleanup last.1 = false := by
  rcases List.eq_nil_or_concat above with rfl | ⟨others, header, rfl⟩
  · rw [List.getLast?_singleton, Option.mem_some_iff] at here
    rw [← here]
    exact not_cleanup_of_blank blank_nil
  · rw [List.concat_eq_append, ← List.cons_append, List.getLast?_concat,
      Option.mem_some_iff] at here
    subst here
    obtain ⟨line, inside⟩ := header
    cases inside with
    | false => exact not_cleanup_of_header (headers (line, false) (by simp))
    | true =>
        obtain ⟨next, side⟩ := entry
        obtain rfl : side = false := outside
        rw [List.concat_eq_append, List.append_assoc, List.singleton_append,
          nested_append_iff] at nested
        exact not_cleanup_of_marker (closing_of_change nested.2)

theorem masked_concat_blank (lines : List Text) :
    ∃ inside, masked (lines ++ [[]]) = masked lines ++ [([], inside)] := by
  rw [masked_eq, masked_eq, tag_from_append]
  exact ⟨_, rfl⟩

theorem guarded_ignores_end : IgnoresEnd Guarded := by
  intro lines
  obtain ⟨inside, split⟩ := masked_concat_blank lines
  rw [Guarded, split, ← List.cons_append, List.isChain_append]
  constructor
  · exact fun chain => chain.1
  · refine fun chain => ⟨chain, .singleton _, fun last _ entry here outside exits => ?_⟩
    rw [List.head?_cons, Option.mem_some_iff] at here
    rw [← here, exit_of_blank blank_nil] at exits
    exact absurd exits (by decide)

/-- Where no entry needs a guard, any order will do. -/
theorem chain_of_targets {related : Text × Bool → Text × Bool → Prop} (entries : List (Text × Bool))
    (vacuous : ∀ entry ∈ entries, ∀ other, related other entry) : entries.IsChain related :=
  (List.pairwise_of_forall_mem_list fun _ _ entry member => vacuous entry member _).isChain

theorem guarded_insert {added lines : List Text} (contained : SelfContained added)
    (guarded : Guarded lines) : Guarded (insertBlock added lines) := by
  obtain ⟨above, below, inside, before, after, headers, -⟩ := masked_insert_block contained lines
  have nested := nested_masked lines
  rw [before] at nested
  rw [Guarded, before, ← List.cons_append, List.isChain_append] at guarded
  obtain ⟨start, rest, joint⟩ := guarded
  have idle : ∀ entry ∈ added.map (·, true), ∀ other, Guards other entry := by
    intro entry member other outside
    obtain ⟨line, -, rfl⟩ := List.mem_map.mp member
    exact absurd (show true = false from outside) (by decide)
  have empty : ∀ other, Guards other ([], inside) := by
    intro other _ exits
    rw [exit_of_blank blank_nil] at exits
    exact absurd exits (by decide)
  -- What stood below the header had no cleanup there, so it needs none below the block.
  have first : ∀ entry ∈ below.head?, Guards ([], inside) entry := by
    intro entry here outside exits
    rw [List.eq_cons_of_mem_head? here] at nested
    have last := List.getLast?_eq_some_getLast (List.cons_ne_nil border above)
    have cleans := joint _ last entry here outside exits
    rw [header_guards_nothing nested outside headers _ last] at cleans
    exact absurd cleans (by decide)
  rw [Guarded, after, ← List.cons_append, List.isChain_append]
  refine ⟨start, ?_, ?_⟩
  · rw [List.isChain_append, List.isChain_cons]
    refine ⟨chain_of_targets _ idle, ⟨first, rest⟩, fun last _ entry here => ?_⟩
    rw [List.head?_cons, Option.mem_some_iff] at here
    exact here ▸ empty last
  · intro last _ entry here
    rw [List.head?_append] at here
    cases shape : (added.map (·, true)).head? with
    | none =>
        rw [shape, Option.none_or, List.head?_cons, Option.mem_some_iff] at here
        exact here ▸ empty last
    | some other =>
        rw [shape, Option.some_or, Option.mem_some_iff] at here
        exact here ▸ idle other (List.mem_of_head? shape) last

theorem guarded_exchange (edit : Edit) (other : edit ≠ .freefile) {lines : List Text}
    (unbroken : AllUnbroken lines) (guarded : Guarded lines) :
    Guarded (editOutside edit.apply lines) := by
  rw [Guarded, masked_exchange edit lines unbroken]
  change ((border :: masked lines).map fun entry =>
    (if entry.2 then entry.1 else edit.apply entry.1, entry.2)).IsChain Guards
  rw [List.isChain_map]
  refine List.IsChain.imp ?_ guarded
  rintro ⟨above, aboveSide⟩ ⟨line, inside⟩ guards outside exits
  obtain rfl : inside = false := outside
  have cleans : isCleanup above = true := guards rfl (exit_of_apply edit other exits)
  simp only [cleanup_apply edit other cleans, ite_self, cleans]

/-! Lines put behind others. -/

section Follow

variable (follow? : Text → Option Text) (isDone : Text → Bool)

/-- What is added behind a line is at most one line, and none only where none is missing. -/
theorem followers_cases (entry : Text × Bool) (below : Text) :
    (followers follow? isDone entry below = [] ∧
      (entry.2 = false → (follow? entry.1).isSome = true → isDone below = true)) ∨
    ∃ other, follow? entry.1 = some other ∧ followers follow? isDone entry below = [other] := by
  obtain ⟨line, inside⟩ := entry
  cases inside with
  | true => exact .inl ⟨rfl, fun outside => absurd (show true = false from outside) (by decide)⟩
  | false =>
      cases done : isDone below with
      | true => exact .inl ⟨by simp [followers, done], fun _ _ => rfl⟩
      | false =>
          cases found : follow? line with
          | none => exact .inl ⟨by simp [followers, found], by simp⟩
          | some other => exact .inr ⟨other, rfl, by simp [followers, done, found]⟩

/-- Calls behind lines that are no cleanups come between no exit and its cleanup. -/
theorem guarded_follow_tagged (quiet : ∀ line other, follow? line = some other →
      isCleanup line = false ∧ isExit other = false)
    (above : Text × Bool) (tagged : List (Text × Bool))
    (guarded : (above :: tagged).IsChain Guards) :
    (above :: followTagged follow? isDone tagged).IsChain Guards := by
  induction tagged generalizing above with
  | nil => exact guarded
  | cons entry rest induction =>
      rw [List.isChain_cons_cons] at guarded
      obtain ⟨first, later⟩ := guarded
      rw [followTagged]
      rcases followers_cases follow? isDone entry (lineBelow rest) with
        ⟨none, -⟩ | ⟨other, found, single⟩
      · rw [none, List.map_nil, List.nil_append, List.isChain_cons_cons]
        exact ⟨first, induction entry later⟩
      · obtain ⟨noCleanup, noExit⟩ := quiet _ _ found
        rw [single, List.map_singleton, List.singleton_append, List.isChain_cons_cons,
          List.isChain_cons_cons]
        refine ⟨first, fun _ exits => ?_, induction (other, false) (later.imp_head ?_)⟩
        · rw [show isExit other = false from noExit] at exits
          exact absurd exits (by decide)
        · intro next guards outside exits
          have cleans := guards outside exits
          rw [noCleanup] at cleans
          exact absurd cleans (by decide)

variable {follow? isDone}

theorem head_of_follow (tagged : List (Text × Bool)) :
    ∀ entry ∈ (followTagged follow? isDone tagged ++ [border]).head?,
      entry ∈ (tagged ++ [border]).head? := by
  cases tagged with
  | nil => exact fun _ here => here
  | cons first rest => exact fun _ here => here

theorem line_of_head {tagged : List (Text × Bool)} {entry : Text × Bool}
    (here : entry ∈ (tagged ++ [border]).head?) : entry.1 = lineBelow tagged := by
  cases tagged with
  | nil => rw [← Option.mem_some_iff.mp here]; rfl
  | cons first rest => rw [← Option.mem_some_iff.mp here]; rfl

/-- Every line that needs an answer gets one. -/
theorem answered_of_follow {check : Text → Bool}
    (finds : ∀ line, check line = true → (follow? line).isSome = true)
    (answers : ∀ line other, follow? line = some other → isDone other = true ∧ check other = false)
    (tagged : List (Text × Bool)) :
    (followTagged follow? isDone tagged ++ [border]).IsChain (AnsweredBy check isDone) := by
  induction tagged with
  | nil => exact .singleton _
  | cons entry rest induction =>
      rw [followTagged, List.cons_append, List.append_assoc]
      rcases followers_cases follow? isDone entry (lineBelow rest) with
        ⟨none, done⟩ | ⟨other, found, single⟩
      · rw [none, List.map_nil, List.nil_append, List.isChain_cons]
        refine ⟨fun below here outside checks => ?_, induction⟩
        rw [line_of_head (head_of_follow rest below here)]
        exact done outside (finds _ checks)
      · obtain ⟨isAnswer, noCheck⟩ := answers _ _ found
        rw [single, List.map_singleton, List.singleton_append, List.isChain_cons_cons,
          List.isChain_cons]
        refine ⟨fun _ _ => isAnswer, fun _ _ _ checks => ?_, induction⟩
        rw [show check other = false from noCheck] at checks
        exact absurd checks (by decide)

/-- Calls behind lines that need no such answer come between no line and its answer. -/
theorem answered_follow {check answers : Text → Bool} (apart : ∀ line other,
      follow? line = some other → check line = false ∧ check other = false)
    (tagged : List (Text × Bool)) (answered : (tagged ++ [border]).IsChain (AnsweredBy check answers)) :
    (followTagged follow? isDone tagged ++ [border]).IsChain (AnsweredBy check answers) := by
  induction tagged with
  | nil => exact answered
  | cons entry rest induction =>
      rw [List.cons_append, List.isChain_cons] at answered
      obtain ⟨first, later⟩ := answered
      rw [followTagged, List.cons_append, List.append_assoc]
      rcases followers_cases follow? isDone entry (lineBelow rest) with
        ⟨none, -⟩ | ⟨other, found, single⟩
      · rw [none, List.map_nil, List.nil_append, List.isChain_cons]
        exact ⟨fun below here => first below (head_of_follow rest below here), induction later⟩
      · obtain ⟨noCheck, noCheckBelow⟩ := apart _ _ found
        rw [single, List.map_singleton, List.singleton_append, List.isChain_cons_cons,
          List.isChain_cons]
        refine ⟨fun _ checks => ?_, fun _ _ _ checks => ?_, induction later⟩
        · rw [noCheck] at checks
          exact absurd checks (by decide)
        · rw [show check other = false from noCheckBelow] at checks
          exact absurd checks (by decide)

end Follow

/-! Lines and their answers. -/

section AnsweredBy

variable {check isDone : Text → Bool}

theorem answered_ignores_end (empty : check [] = false) : IgnoresEnd (Answered check isDone) := by
  intro lines
  obtain ⟨inside, split⟩ := masked_concat_blank lines
  rw [Answered, Answered, split, List.append_assoc, List.singleton_append, List.isChain_append,
    List.isChain_append, List.isChain_cons_cons]
  have blank : AnsweredBy check isDone ([], inside) border := by
    intro _ checks
    rw [show check [] = false from empty] at checks
    exact absurd checks (by decide)
  -- The two lines that may stand below have the same text.
  constructor
  · rintro ⟨chain, -, last⟩
    refine ⟨chain, .singleton _, fun entry here below bottom => ?_⟩
    obtain rfl : border = below := Option.mem_some_iff.mp bottom
    exact last entry here ([], inside) rfl
  · rintro ⟨chain, -, last⟩
    refine ⟨chain, ⟨blank, .singleton _⟩, fun entry here below bottom => ?_⟩
    obtain rfl : ([], inside) = below := Option.mem_some_iff.mp bottom
    exact last entry here border rfl

/-- Lines that need no answer may stand above any others. -/
theorem answered_append {idle rest : List (Text × Bool)}
    (vacuous : ∀ entry ∈ idle, ∀ below, AnsweredBy check isDone entry below)
    (chain : rest.IsChain (AnsweredBy check isDone)) :
    (idle ++ rest).IsChain (AnsweredBy check isDone) := by
  rw [List.isChain_append]
  refine ⟨?_, chain, fun entry here below _ => vacuous entry (List.mem_of_getLast? here) below⟩
  exact (List.pairwise_of_forall_mem_list fun entry member _ _ => vacuous entry member _).isChain

theorem answered_insert {added lines : List Text} (contained : SelfContained added)
    (empty : check [] = false) (header : ∀ line, isHeader line false = true → check line = false)
    (answered : Answered check isDone lines) : Answered check isDone (insertBlock added lines) := by
  obtain ⟨above, below, inside, before, after, headers, -⟩ := masked_insert_block contained lines
  rw [Answered, before, List.append_assoc] at answered
  have shape : above ++ (added.map (·, true) ++ ([], inside) :: below) ++ [border] =
      (above ++ added.map (·, true) ++ [([], inside)]) ++ (below ++ [border]) := by simp
  rw [Answered, after, shape]
  refine answered_append ?_ answered.right_of_append
  rintro ⟨line, side⟩ member other outside checks
  obtain rfl : side = false := outside
  have none : check line = false := by
    rw [List.mem_append, List.mem_append] at member
    rcases member with (top | block) | blank
    · exact header line (headers _ top)
    · simp at block
    · rw [(Prod.mk.inj (List.mem_singleton.mp blank)).1]
      exact empty
  rw [none] at checks
  exact absurd checks (by decide)

end AnsweredBy

/-! Cleanups put in. -/

/-- Every exit outside blocks gets a cleanup. -/
theorem guarded_of_guard (previous : Option Text) (above : Text × Bool)
    (known : previous.any isCleanup = true → isCleanup above.1 = true)
    (tagged : List (Text × Bool)) : (above :: guardTagged previous tagged).IsChain Guards := by
  induction tagged generalizing previous above with
  | nil => exact .singleton _
  | cons entry rest induction =>
      have later := induction (some entry.1) entry fun same => same
      rw [guardTagged, guards]
      split
      next =>
        have calls := calls_cleanup (indentation entry.1) (blank_indentation entry.1)
        have cleans := cleanup_behind (blank_indentation entry.1)
        rw [List.map_singleton, List.singleton_append, List.isChain_cons_cons,
          List.isChain_cons_cons]
        refine ⟨fun _ exits => ?_, fun _ _ => cleans, later⟩
        rw [call_is_no_exit calls (by decide)] at exits
        exact absurd exits (by decide)
      next present =>
        rw [List.map_nil, List.nil_append, List.isChain_cons_cons]
        refine ⟨fun outside exits => known ?_, later⟩
        simpa [outside, exits] using present

end BasicBench.Instrument
