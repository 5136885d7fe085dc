import BasicBench.Proofs.Frames

/-!
Blocks in the mask of a program. A block of added code opens and closes the nesting itself, so it
may stand between any two lines, also inside another block and behind markers without partners: its
lines are inside, and no other line changes sides.
-/

set_option autoImplicit false

namespace BasicBench.Instrument

open Text

/-! The mask of lines below other lines. -/

theorem mask_from_tags (depth : Nat) (lines : List Text) :
    maskFrom depth lines = (tagFrom depth lines).map (·.2) := by
  induction lines generalizing depth with
  | nil => rfl
  | cons line rest induction => rw [maskFrom, tagFrom, List.map_cons, induction]

theorem mask_from_append (depth : Nat) (above below : List Text) :
    maskFrom depth (above ++ below) =
      maskFrom depth above ++ maskFrom (depthThrough depth above) below := by
  simp only [mask_from_tags, tag_from_append, List.map_append]

/-- Lines that open and close the nesting themselves are inside, and the lines behind them stand
where they would stand without them. -/
theorem mask_from_contained {added : List Text} (contained : SelfContained added) (depth : Nat)
    (below : List Text) :
    maskFrom depth (added ++ below) =
      List.replicate added.length true ++ maskFrom depth below := by
  obtain ⟨tags, closed⟩ := contained depth
  have inside : maskFrom depth added = List.replicate added.length true := by
    rw [mask_from_tags, tags, List.map_map]
    exact List.map_const ..
  rw [mask_from_append, inside, closed]

theorem mask_insert_contained {added : List Text} (contained : SelfContained added)
    (above below : List Text) :
    mask (above ++ (added ++ below)) =
      (mask (above ++ below)).take above.length ++
        (List.replicate added.length true ++ (mask (above ++ below)).drop above.length) := by
  have front : (maskFrom 0 above).length = above.length := length_maskFrom 0 above
  have around : mask (above ++ below) =
      maskFrom 0 above ++ maskFrom (depthThrough 0 above) below := mask_from_append 0 above below
  rw [around, List.take_left' front, List.drop_left' front, mask, mask_from_append,
    mask_from_contained contained]

/-! Blocks of added code. -/

/-- The blocks of added code, each with what it is filled in with. -/
inductive Scaffold where
  | console (timeout : Int) (autoExit : Bool)
  | resources
  | graphics (registerImages : Bool)
  | logging (stamp : Text) (verbose : Bool)
  | screenshots (stamp : Text) (logged : Bool)

namespace Scaffold

/-- The lines of the block; none for a timeout that is too long to be written down. -/
def lines? : Scaffold → Option (List Text)
  | console timeout autoExit => consoleBlock? timeout autoExit
  | resources => some resourceBlock
  | graphics registerImages => some (graphicsBlock registerImages)
  | logging stamp verbose => some (loggingBlock stamp verbose)
  | screenshots stamp logged => some (screenshotBlock stamp logged)

end Scaffold

/-- A time stamp stands behind a word that makes no marker, whatever it is. -/
theorem contained_of_stamped {feature : Feature} {stamp : Text} {word : String} {added : List Text}
    (stamped : IsStamped feature stamp word added) (plain : isPlainLead word = true) :
    SelfContained added := by
  obtain ⟨body, rfl, lines⟩ := stamped
  simp only [isPlainLead, areApart, Bool.and_eq_true, bne_iff_ne] at plain
  -- a time stamp may break its line, so that line need not be a support line
  apply contained_block feature body
  intro line member
  cases lines line member with
  | inl support => exact ((support_line_iff line).mp support).1
  | inr filled => exact marker_kind_of_leads filled.1 ⟨plain.1.1.1, plain.2⟩

theorem contained_scaffold {scaffold : Scaffold} {added : List Text}
    (built : scaffold.lines? = some added) : SelfContained added := by
  cases scaffold with
  | console timeout autoExit => exact contained_of_support (support_console _ _ _ built)
  | resources =>
      obtain rfl := Option.some.inj built
      exact contained_of_support support_resources
  | graphics registerImages =>
      obtain rfl := Option.some.inj built
      exact contained_of_support (support_graphics registerImages)
  | logging stamp verbose =>
      obtain rfl := Option.some.inj built
      exact contained_of_stamped (stamped_logging stamp verbose) (by decide)
  | screenshots stamp logged =>
      obtain rfl := Option.some.inj built
      exact contained_of_stamped (stamped_screenshots stamp logged) (by decide)

/-- A block of added code that is put between any lines adds as many marks as it has lines, in its
place, and changes no other mark. -/
theorem mask_insert_scaffold (scaffold : Scaffold) (added : List Text)
    (built : scaffold.lines? = some added) (above below : List Text) :
    mask (above ++ (added ++ below)) =
      (mask (above ++ below)).take above.length ++
        (List.replicate added.length true ++ (mask (above ++ below)).drop above.length) :=
  mask_insert_contained (contained_scaffold built) above below

/-- A block is open behind these lines. -/
def unclosedAbove : List Text :=
  ["PRINT 1".toList, openingMarker .graphics, "PSET (1, 2), 3".toList]

/-- The first marker closes an open block, though under another name, and the second none. -/
def strayBelow : List Text :=
  ["PRINT 2".toList, closingMarker .logging, closingMarker .console, "PRINT 3".toList]

/-- A block whose time stamp reads like a marker, between lines whose markers have no partners. -/
theorem mask_around_screenshots : ∃ added,
    (Scaffold.screenshots (openingMarker .console) true).lines? = some added ∧
      mask (unclosedAbove ++ (added ++ strayBelow)) =
        [false, true, true] ++
          (List.replicate added.length true ++ [true, true, false, false]) := by
  have marks : mask (unclosedAbove ++ strayBelow) =
      [false, true, true] ++ [true, true, false, false] := by decide
  have whole := mask_insert_scaffold (.screenshots (openingMarker .console) true) _ rfl
    unclosedAbove strayBelow
  rw [marks] at whole
  exact ⟨_, rfl, whole⟩

end BasicBench.Instrument
