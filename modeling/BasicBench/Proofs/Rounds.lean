import BasicBench.Proofs.DrawingMode
import BasicBench.Proofs.InsideLines

/-!
A program that is instrumented again and again, each time for the mode that its words tell by then.
Whether it draws is the same every time: in a program that does not, no word comes in that says so,
and in one that does, the graphics block keeps the call that makes an image. So every round selects
the passes of the first one.
-/

set_option autoImplicit false

namespace BasicBench.Instrument

open Text Pattern

/-- The outcome of a round on the output of the round before it, each at a time of its own. -/
def round? (options : Options) (stamps : Nat → Text) (source : Text) : Nat → Option Instrumented
  | 0 => instrumentDetected? options (stamps 0) source
  | count + 1 => do
      let last ← round? options stamps source count
      instrumentDetected? options (stamps (count + 1)) last.program

/-- The line of the graphics block that makes an image. -/
def imageLine : Text := "    img = _NEWIMAGE(width, height, 32)".toList

theorem image_line_draws : graphicsWord.occursIn imageLine = true := by decide +kernel

theorem image_line_stays : normalizeLine imageLine = imageLine := by decide +kernel

theorem image_line_in_block (registerImages : Bool) : imageLine ∈ graphicsBlock registerImages := by
  have start : imageLine ∈ asLines graphicsBodyStart := by
    have listed : "    img = _NEWIMAGE(width, height, 32)" ∈ graphicsBodyStart :=
      List.mem_of_getElem? (show graphicsBodyStart[28]? = _ from rfl)
    exact List.mem_map_of_mem listed
  rw [graphicsBlock, block, asLines, List.map_append, List.map_append]
  simp only [asLines] at start
  simp [start]

variable {options : Options} {mode : Mode} {stamp source : Text} {out : Instrumented}

/-- Only the action that adds the block of a feature brings its marker in. -/
theorem marker_was_there (plain : Unbroken stamp) {feature : Feature} {lines : List Text}
    (unbroken : AllUnbroken lines) {action : Action} (other : action ≠ .support feature)
    (marked : hasBlock feature (action.perform options stamp lines) = true) :
    hasBlock feature lines = true := by
  rw [has_block_iff] at marked ⊢
  have landmark := landmark_marker feature
  cases action with
  | support added =>
      have foreign : (supportBlock options stamp lines added).countP (isMarkerOf feature) = 0 := by
        rcases support_block_cases options stamp lines added plain with support | ⟨none, -⟩
        · rw [count_marker_in_support support, if_neg]
          intro same
          exact other (congrArg Action.support same.symm)
        · rw [none]
          rfl
      rw [count_support landmark.toStanding, foreign, ite_self] at marked
      exact marked
  | direct =>
      have directive : isMarkerOf feature "$CONSOLE".toList = false := by
        cases feature <;> decide
      rw [count_direct, directive] at marked
      simpa using marked
  | _ =>
      rw [landmark.count_perform options stamp lines unbroken _ (by simp) (by simp)] at marked
      exact marked

/-- Where the graphics block is, its call that makes an image is inside. -/
def MakesImages (lines : List Text) : Prop :=
  hasBlock .graphics lines = true → Inside lines imageLine

theorem makes_images_kept (plain : Unbroken stamp) (action : Action) :
    KeptBy options stamp MakesImages action := by
  intro lines unbroken makes marked
  by_cases adds : action = .support .graphics
  · rw [adds, Action.perform] at marked ⊢
    split
    next present => exact makes present
    next absent =>
      rcases masked_insert_block (contained_support options stamp plain lines .graphics) lines with
        ⟨above, below, side, -, after, -, -⟩
      rw [Inside, after, List.mem_append, List.mem_append]
      exact .inr (.inl (List.mem_map_of_mem (image_line_in_block _)))
  · have inside := makes (marker_was_there plain unbroken adds marked)
    exact inside_kept plain image_line_stays action lines unbroken inside

theorem makes_images_ignores_end : IgnoresEnd MakesImages := by
  intro lines
  have marker : hasBlock .graphics (lines ++ [[]]) = hasBlock .graphics lines := by
    have empty : isMarkerOf .graphics [] = false := (landmark_marker .graphics).blank [] blank_nil
    rw [Bool.eq_iff_iff, has_block_iff, has_block_iff, List.countP_append]
    simp [empty]
  rw [MakesImages, MakesImages, marker]
  exact imp_congr_right fun _ => inside_ignores_end imageLine (by decide) lines

/-- A program that draws is instrumented to one that makes an image. -/
theorem image_in_output (plain : Unbroken stamp) (draws : mode.draws = true)
    (unmarked : ∀ line ∈ splitLines source, markerKind? line = none)
    (ran : instrument? options mode stamp source = some out) :
    Inside (splitLines out.program) imageLine := by
  have absent : MakesImages (splitLines source) := by
    intro marked
    rcases List.any_eq_true.mp marked with ⟨line, member, marker⟩
    have opening := opening_shape_of_marker .graphics line marker
    rw [← opening_iff, unmarked line member] at opening
    cases opening
  have present := block_in_output plain (by simp) (show isSelected options mode .graphics = true
    from draws) ran
  rcases instrument_run ran with ⟨revision, passed, same, -⟩
  rw [← same] at present ⊢
  have makes := run_passes_keeps plain makes_images_ignores_end
    (fun _ _ action _ => makes_images_kept plain action) passed absent
  exact makes present

theorem image_still_in_output (plain : Unbroken stamp) (inside : Inside (splitLines source) imageLine)
    (ran : instrument? options mode stamp source = some out) :
    Inside (splitLines out.program) imageLine := by
  rcases instrument_run ran with ⟨revision, passed, same, -⟩
  rw [← same]
  exact run_passes_keeps plain (inside_ignores_end imageLine (by decide))
    (fun _ _ action _ => inside_kept plain image_line_stays action) passed inside

theorem draws_of_image {program : Text} (inside : Inside (splitLines program) imageLine) :
    (Mode.detect program).draws = true := by
  rw [draws_iff]
  intro none
  have draws := image_line_draws
  rw [none imageLine (mem_of_mem_masked inside)] at draws
  cases draws

theorem selected_congr {left right : Mode} (same : left.draws = right.draws) :
    selected options left = selected options right := by
  apply List.filter_congr
  intro feature _
  cases feature <;> simp only [isSelected, same]

/-! Round after round. -/

/-- What is known after a round, when the source draws or does not. -/
structure Settled (options : Options) (draws : Bool) (out : Instrumented) : Prop where
  features : ∀ mode : Mode, mode.draws = draws → out.features = selected options mode
  drawing : if draws then Inside (splitLines out.program) imageLine
    else DrawsNothing (splitLines out.program)
  ready : options.console = true → hasBlock .console (splitLines out.program) = true

theorem Settled.draws_eq {draws : Bool} (settled : Settled options draws out) :
    (Mode.detect out.program).draws = draws := by
  have drawing := settled.drawing
  cases draws with
  | true => exact draws_of_image drawing
  | false =>
      rw [← Bool.not_eq_true, draws_iff, not_not]
      exact drawing

/-- A run that tells the mode itself settles what it keeps of a program. -/
theorem settled_of_run (clock : ClockShows stamp)
    (images : (Mode.detect source).draws = true →
      (∀ line ∈ splitLines source, markerKind? line = none) ∨ Inside (splitLines source) imageLine)
    (ran : instrumentDetected? options stamp source = some out) :
    Settled options (Mode.detect source).draws out where
  features := by
    intro mode same
    rcases Option.map_eq_some_iff.mp ran with ⟨revision, -, rfl⟩
    exact selected_congr same.symm
  drawing := by
    have plain := unbroken_of_clock clock
    cases draws : (Mode.detect source).draws with
    | true =>
        rcases images draws with unmarked | inside
        · exact image_in_output plain draws unmarked ran
        · exact image_still_in_output plain inside ran
    | false =>
        have console : Mode.detect source = .console := by
          cases mode : Mode.detect source with
          | console => rfl
          | graphics => rw [mode] at draws; cases draws
          | mixed => rw [mode] at draws; cases draws
        have none : DrawsNothing (splitLines source) := by
          rw [← Bool.not_eq_true, draws_iff, not_not] at draws
          exact draws
        rw [instrumentDetected?, console] at ran
        exact no_drawing_in_output clock none ran
  ready := by
    intro shows
    exact block_in_output (unbroken_of_clock clock) (by simp) shows ran

/-- One more round: it succeeds, and what is known still holds. -/
theorem settled_step {draws : Bool} {last : Instrumented} (settled : Settled options draws last)
    (clock : ClockShows stamp) :
    ∃ next, instrumentDetected? options stamp last.program = some next ∧
      Settled options draws next := by
  cases ran : instrumentDetected? options stamp last.program with
  | none =>
      have failed := (instrument_none_iff options _ stamp last.program).mp ran
      rw [settled.ready failed.1] at failed
      exact absurd failed.2.1 (by decide)
  | some next =>
      have again := settled_of_run clock (fun draws => .inr ?_) ran
      · rw [settled.draws_eq] at again
        exact ⟨next, rfl, again⟩
      · have drawing := settled.drawing
        rw [settled.draws_eq] at draws
        rw [draws] at drawing
        exact drawing

/-- However often a program is instrumented, once the first round succeeds every round does, with
the passes of the first one, and the outputs draw exactly if the source does. -/
theorem rounds_select_same_passes (options : Options) (stamps : Nat → Text) (source : Text)
    (first : Instrumented) (unmarked : ∀ line ∈ splitLines source, markerKind? line = none)
    (clock : ∀ count, ClockShows (stamps count))
    (ran : instrumentDetected? options (stamps 0) source = some first) (count : Nat) :
    ∃ out, round? options stamps source count = some out ∧ out.features = first.features ∧
      (Mode.detect out.program).draws = (Mode.detect source).draws := by
  have start := settled_of_run (clock 0) (fun _ => .inl unmarked) ran
  have every : ∃ out, round? options stamps source count = some out ∧
      Settled options (Mode.detect source).draws out := by
    induction count with
    | zero => exact ⟨first, ran, start⟩
    | succ count induction =>
        rcases induction with ⟨last, ranLast, settled⟩
        rcases settled_step settled (clock (count + 1)) with ⟨next, ranNext, again⟩
        refine ⟨next, ?_, again⟩
        rw [round?, ranLast]
        exact ranNext
  rcases every with ⟨out, ranOut, settled⟩
  refine ⟨out, ranOut, ?_, settled.draws_eq⟩
  rw [settled.features _ rfl, start.features _ rfl]

/-- A program that only draws. Once the console pass has run, its mode is the mixed one. -/
theorem rounds_of_circle : ∃ first,
    instrumentDetected? {} "2024-01-02T03-04-05".toList "CIRCLE (1, 2), 3".toList = some first ∧
    ∀ count, ∃ out, round? {} (fun _ => "2024-01-02T03-04-05".toList) "CIRCLE (1, 2), 3".toList
      count = some out ∧ out.features = first.features ∧ (Mode.detect out.program).draws = true := by
  have draws : (Mode.detect "CIRCLE (1, 2), 3".toList).draws = true := by decide +kernel
  have unmarked : ∀ line ∈ splitLines "CIRCLE (1, 2), 3".toList, markerKind? line = none := by
    decide +kernel
  have clock : ClockShows "2024-01-02T03-04-05".toList := by
    have shown : ("2024-01-02T03-04-05".toList.all fun c => c.isDigit || c == '-' || c == 'T') =
        true := by decide +kernel
    intro c member
    simpa [or_assoc] using List.all_eq_true.mp shown c member
  cases ran : instrumentDetected? {} "2024-01-02T03-04-05".toList "CIRCLE (1, 2), 3".toList with
  | none =>
      have failed := (instrument_none_iff {} _ _ _).mp ran
      exact absurd failed.2.2 (by decide +kernel)
  | some first =>
      refine ⟨first, rfl, fun count => ?_⟩
      rw [← draws]
      exact rounds_select_same_passes {} _ _ first unmarked (fun _ => clock) ran count

end BasicBench.Instrument
