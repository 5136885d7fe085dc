import BasicBench.Proofs.QuotedPrompts
import BasicBench.Proofs.Settling

/-!
The graphics pass on its own output. Its two edits copy the arguments of a call as they are, so what
they write may hold a call again: the second run then goes on where the first one ended. That
happens on a line by itself, whatever the other lines are, and only on a line with two drawing
words.
-/

set_option autoImplicit false

namespace BasicBench.Text

open Pattern

section

variable {letters : Text}

/-- Letters that are held neither up to the last letter of a word nor from its second one on are
held only where that word stands. -/
theorem place_of_letters {above form rest front word back : Text} (same : SameText letters form)
    (length : letters.length = word.length)
    (split : above ++ (form ++ rest) = front ++ (word ++ back))
    (before : ¬Holds letters (front ++ word.dropLast))
    (behind : ¬Holds letters (word.tail ++ back)) : above = front := by
  have size : form.length = word.length := same.length_eq.symm.trans length
  have whole := congrArg List.length split
  simp only [List.length_append] at whole
  rcases Nat.lt_trichotomy above.length front.length with shorter | level | longer
  · have first : above ++ form <+: front ++ (word ++ back) := by
      rw [← split, ← List.append_assoc]
      exact List.prefix_append _ rest
    have second : front ++ word.dropLast <+: front ++ (word ++ back) := by
      apply (List.prefix_append_right_inj front).mpr
      exact (List.dropLast_prefix word).trans (List.prefix_append word back)
    have short : (above ++ form).length ≤ (front ++ word.dropLast).length := by
      simp only [List.length_append, List.length_dropLast]
      omega
    have inner := List.prefix_of_prefix_length_le first second short
    exact absurd ⟨form, same, (List.suffix_append above form).isInfix.trans inner.isInfix⟩ before
  · exact (List.append_inj split level).1
  · have first : form ++ rest <:+ front ++ (word ++ back) := ⟨above, split⟩
    have second : word.tail ++ back <:+ front ++ (word ++ back) := by
      have inner : word.tail ++ back <:+ word ++ back := by
        rcases List.tail_suffix word with ⟨head, whole⟩
        exact ⟨head, by rw [← List.append_assoc, whole]⟩
      exact inner.trans (List.suffix_append front _)
    have short : (form ++ rest).length ≤ (word.tail ++ back).length := by
      simp only [List.length_append, List.length_tail]
      omega
    have inner := List.suffix_of_suffix_length_le first second short
    exact absurd ⟨form, same, (List.prefix_append form rest).isInfix.trans inner.isInfix⟩ behind

end

end BasicBench.Text

namespace BasicBench.Instrument

open Text Pattern

/-! Drawing words. -/

/-- The text holds a word that a drawing edit looks for. -/
def HoldsDrawing (text : Text) : Prop :=
  Holds Edit.image.key.toList text ∨ Holds Edit.point.key.toList text

/-- However the line is cut in two, one of the parts holds no drawing word. -/
def OneDrawing (line : Text) : Prop :=
  ∀ left right, line = left ++ right → ¬(HoldsDrawing left ∧ HoldsDrawing right)

theorem holds_drawing_of_part {part text : Text} (inner : part <:+: text)
    (holds : HoldsDrawing part) : HoldsDrawing text :=
  holds.imp (holds_of_part inner) (holds_of_part inner)

/-- No drawing word goes across a character that is in none. -/
theorem holds_drawing_break {c : Char}
    (image : Edit.image.key.toList.all (fun letter => !sameLetter letter c) = true)
    (point : Edit.point.key.toList.all (fun letter => !sameLetter letter c) = true)
    (left right : Text) :
    HoldsDrawing (left ++ c :: right) ↔ HoldsDrawing left ∨ HoldsDrawing right := by
  rw [HoldsDrawing, holds_break image, holds_break point, HoldsDrawing, HoldsDrawing, or_or_or_comm]

instance (text : Text) : Decidable (HoldsDrawing text) :=
  decidable_of_iff ((anyCase Edit.image.key).occursIn text = true ∨
    (anyCase Edit.point.key).occursIn text = true)
    (or_congr (occurs_any_case_iff ..) (occurs_any_case_iff ..))

theorem holds_key {edit : Edit} {before : Option Char} {piece rest : Text}
    {found : List (Nat × Text)} (reads : edit.pattern.Reads before piece rest found) :
    Holds edit.key.toList piece := by
  rcases (edit.reads_key _ _ _ _ reads).2 with ⟨form, more, rfl, same⟩
  exact ⟨form, same, (List.prefix_append form more).isInfix⟩

theorem not_occurs_of_missing (edit : Edit) {line : Text} (missing : ¬Holds edit.key.toList line) :
    edit.pattern.occursIn line = false := by
  rw [← Bool.not_eq_true, occurs_in_iff]
  intro occurs
  obtain ⟨above, piece, rest, rfl, found, reads⟩ := occurs
  exact missing (holds_of_part ⟨above, rest, List.append_assoc ..⟩ (holds_key reads))

/-- In a line with one place for the key an edit finds nothing, or it exchanges just one piece. -/
theorem apply_once (edit : Edit) {line : Text}
    (once : ∀ left right, line = left ++ right →
      ¬(Holds edit.key.toList left ∧ Holds edit.key.toList right)) :
    edit.apply line = line ∨ ∃ kept piece rest found, line = kept ++ (piece ++ rest) ∧
      edit.pattern.Reads (lastOf none kept) piece rest found.groups ∧
      edit.apply line = kept ++ (edit.write found ++ rest) := by
  suffices general : ∀ before out, edit.pattern.Rewrites edit.write before line out →
      out = line ∨ ∃ kept piece rest found, line = kept ++ (piece ++ rest) ∧
        edit.pattern.Reads (lastOf before kept) piece rest found.groups ∧
        out = kept ++ (edit.write found ++ rest) from
    general none _ (edit.rewrites line)
  intro before out rewrites
  induction rewrites with
  | done => exact .inl rfl
  | keep before c rest out _ _ induction =>
      have later : ∀ left right, rest = left ++ right →
          ¬(Holds edit.key.toList left ∧ Holds edit.key.toList right) := by
        intro left right split both
        apply once (c :: left) right (by rw [split, List.cons_append])
        exact ⟨holds_of_part (List.suffix_cons c left).isInfix both.1, both.2⟩
      rcases induction later with same | ⟨kept, piece, others, found, split, reads, wrote⟩
      · exact .inl (by rw [same])
      · right
        refine ⟨c :: kept, piece, others, found, by rw [split, List.cons_append], ?_, ?_⟩
        · rw [last_of_cons]
          exact reads
        · rw [wrote, List.cons_append]
  | swap before piece rest out found _ reads next induction =>
      -- The piece holds the key, so nothing behind it does.
      have missing : ¬Holds edit.key.toList rest := fun behind =>
        once piece rest rfl ⟨holds_key reads, behind⟩
      have later : ∀ left right, rest = left ++ right →
          ¬(Holds edit.key.toList left ∧ Holds edit.key.toList right) := by
        intro left right split both
        rw [split] at missing
        exact missing (holds_of_part (List.suffix_append left right).isInfix both.2)
      have stays : out = rest := by
        rcases induction later with same | ⟨kept, other, others, swapped, split, readsOther, -⟩
        · exact same
        · rw [split] at missing
          have within : other <:+: kept ++ (other ++ others) :=
            ⟨kept, others, List.append_assoc ..⟩
          exact absurd (holds_of_part within (holds_key readsOther)) missing
      right
      exact ⟨[], piece, rest, found, rfl, reads, by rw [stays, List.nil_append]⟩

/-! What the drawing edits write. -/

theorem not_drawing_argument {argument more : Text} {stop : Char}
    (image : Edit.image.key.toList.all (fun letter => !sameLetter letter stop) = true)
    (point : Edit.point.key.toList.all (fun letter => !sameLetter letter stop) = true)
    (inner : ¬HoldsDrawing argument) (behind : ¬HoldsDrawing more) :
    ¬HoldsDrawing (trim argument ++ stop :: more) := by
  rw [holds_drawing_break image point, not_or]
  exact ⟨mt (holds_drawing_of_part (trim_within argument)) inner, behind⟩

theorem not_drawing_spaced {more : Text} (behind : ¬HoldsDrawing more) :
    ¬HoldsDrawing (' ' :: more) := by
  have split := holds_drawing_break (c := ' ') (by decide) (by decide) [] more
  rw [List.nil_append] at split
  rw [split, not_or]
  exact ⟨by decide +kernel, behind⟩

/-- A tracked image holds no drawing word when its arguments do not. -/
theorem not_drawing_tracked {front width height rest : Text} (before : ¬HoldsDrawing front)
    (first : ¬HoldsDrawing width) (second : ¬HoldsDrawing height) (behind : ¬HoldsDrawing rest) :
    ¬HoldsDrawing (front ++ ("GraphicsManager_CreateImage&(".toList ++ trim width ++
      ", ".toList ++ trim height ++ [')'] ++ rest)) := by
  have call : "GraphicsManager_CreateImage&(".toList =
      'G' :: 'r' :: ("aphicsManager_CreateImage&".toList ++ ['(']) := by decide
  have comma : ", ".toList = [',', ' '] := by decide
  have start : ¬HoldsDrawing (front ++ ['G']) := by
    have image : Edit.image.key.toList = "_NEWIMAG".toList ++ ['E'] := by decide
    have point : Edit.point.key.toList = "PSE".toList ++ ['T'] := by decide
    rw [HoldsDrawing, image, point, holds_last (by decide), holds_last (by decide), ← image,
      ← point]
    exact before
  have shape : front ++ ("GraphicsManager_CreateImage&(".toList ++ trim width ++ ", ".toList ++
      trim height ++ [')'] ++ rest) =
      (front ++ ['G']) ++ 'r' :: ("aphicsManager_CreateImage&".toList ++
        '(' :: (trim width ++ ',' :: ' ' :: (trim height ++ ')' :: rest))) := by
    rw [call, comma]
    simp
  rw [shape, holds_drawing_break (c := 'r') (by decide) (by decide),
    holds_drawing_break (c := '(') (by decide) (by decide), not_or, not_or]
  refine ⟨start, by decide +kernel, ?_⟩
  apply not_drawing_argument (by decide) (by decide) first
  apply not_drawing_spaced
  exact not_drawing_argument (by decide) (by decide) second behind

/-- A call of the checked point, taken apart around the word in its name. -/
def pointCall (front arguments : Text) : Text :=
  (front ++ 'C' :: "ALL GraphicsManager_Safe".toList) ++ ("PSET".toList ++ '(' :: arguments)

theorem no_image_in_call {front arguments : Text} (before : ¬HoldsDrawing front)
    (behind : ¬HoldsDrawing arguments) :
    newimageCall.occursIn (pointCall front arguments) = false := by
  apply not_occurs_of_missing .image
  have name : "ALL GraphicsManager_SafePSET".toList =
      "ALL GraphicsManager_Safe".toList ++ "PSET".toList := by decide
  have whole : pointCall front arguments =
      (front ++ 'C' :: "ALL GraphicsManager_SafePSET".toList) ++ '(' :: arguments := by
    rw [pointCall, name]
    simp
  rw [whole, holds_break (by decide), holds_break (by decide), not_or, not_or]
  refine ⟨⟨fun image => before (.inl image), ?_⟩, fun image => behind (.inl image)⟩
  rw [← occurs_any_case_iff]
  decide +kernel

/-- The only place for a point is in the name that is called, where a word character stands in
front of it. -/
theorem no_point_in_call {front arguments : Text} (before : ¬HoldsDrawing front)
    (behind : ¬HoldsDrawing arguments) :
    psetStatement.occursIn (pointCall front arguments) = false := by
  rw [← Bool.not_eq_true, occurs_in_iff, pointCall]
  intro occurs
  obtain ⟨above, piece, others, split, found, reads⟩ := occurs
  obtain ⟨fresh, form, more, piece, same⟩ := Edit.point.reads_key _ _ _ _ reads
  rw [piece, List.append_assoc form more others] at split
  have upTo : ¬Holds Edit.point.key.toList
      ((front ++ 'C' :: "ALL GraphicsManager_Safe".toList) ++ "PSET".toList.dropLast) := by
    have shorter : "PSET".toList.dropLast = "PSE".toList := by decide
    rw [shorter, List.append_assoc, List.cons_append, holds_break (by decide), not_or]
    refine ⟨fun point => before (.inr point), ?_⟩
    rw [← occurs_any_case_iff]
    decide +kernel
  have fromSecond : ¬Holds Edit.point.key.toList ("PSET".toList.tail ++ '(' :: arguments) := by
    rw [holds_break (by decide), not_or]
    refine ⟨?_, fun point => behind (.inr point)⟩
    rw [← occurs_any_case_iff]
    decide +kernel
  have place := place_of_letters same (by decide) split.symm upTo fromSecond
  have word : lastOf none above = some 'e' := by
    rw [place, last_of_append, last_of_cons]
    decide
  rw [word] at fresh
  exact absurd (fresh rfl) (by decide)

/-- In a checked point neither edit finds anything when its arguments hold no drawing word. -/
theorem no_point_written {front x y colour rest : Text} (before : ¬HoldsDrawing front)
    (first : ¬HoldsDrawing x) (second : ¬HoldsDrawing y) (third : ¬HoldsDrawing colour)
    (behind : ¬HoldsDrawing rest) :
    newimageCall.occursIn (front ++ ("CALL GraphicsManager_SafePSET(".toList ++ trim x ++
      ", ".toList ++ trim y ++ ", ".toList ++ trim colour ++ [')'] ++ rest)) = false ∧
    psetStatement.occursIn (front ++ ("CALL GraphicsManager_SafePSET(".toList ++ trim x ++
      ", ".toList ++ trim y ++ ", ".toList ++ trim colour ++ [')'] ++ rest)) = false := by
  have call : "CALL GraphicsManager_SafePSET(".toList =
      'C' :: ("ALL GraphicsManager_Safe".toList ++ ("PSET".toList ++ ['('])) := by decide
  have comma : ", ".toList = [',', ' '] := by decide
  generalize argumentsEq : trim x ++ ',' :: ' ' :: (trim y ++ ',' :: ' ' ::
    (trim colour ++ ')' :: rest)) = arguments
  have quiet : ¬HoldsDrawing arguments := by
    rw [← argumentsEq]
    apply not_drawing_argument (by decide) (by decide) first
    apply not_drawing_spaced
    apply not_drawing_argument (by decide) (by decide) second
    apply not_drawing_spaced
    exact not_drawing_argument (by decide) (by decide) third behind
  have shape : front ++ ("CALL GraphicsManager_SafePSET(".toList ++ trim x ++ ", ".toList ++
      trim y ++ ", ".toList ++ trim colour ++ [')'] ++ rest) = pointCall front arguments := by
    rw [pointCall, call, comma, ← argumentsEq]
    simp
  rw [shape]
  exact ⟨no_image_in_call before quiet, no_point_in_call before quiet⟩

/-! Lines behind both edits. -/

theorem one_drawing_iff (line : Text) : OneDrawing line ↔ ∀ cut < line.length + 1,
    ¬(HoldsDrawing (line.take cut) ∧ HoldsDrawing (line.drop cut)) := by
  constructor
  · intro one cut _
    exact one _ _ (List.take_append_drop cut line).symm
  · intro everywhere left right split
    have cut := everywhere left.length (by rw [split, List.length_append]; omega)
    rwa [split, List.take_left, List.drop_left] at cut

instance (line : Text) : Decidable (OneDrawing line) := decidable_of_iff' _ (one_drawing_iff line)

/-- Around a drawing word that is the only one no part holds another. -/
theorem around_drawing {line kept form rest : Text} (one : OneDrawing line)
    (split : line = kept ++ (form ++ rest)) (word : HoldsDrawing form) :
    ¬HoldsDrawing kept ∧ ∀ part : Text, part <:+: rest → ¬HoldsDrawing part := by
  constructor
  · intro before
    apply one _ _ split
    exact ⟨before, holds_drawing_of_part (List.prefix_append form rest).isInfix word⟩
  · intro part inner holds
    rw [← List.append_assoc] at split
    apply one _ _ split
    exact ⟨holds_drawing_of_part (List.suffix_append kept form).isInfix word,
      holds_drawing_of_part inner holds⟩

/-- A line with one drawing word is done with when it is drawn once. -/
theorem drawn_once_of_one_drawing {line : Text} (one : OneDrawing line) : DrawnOnce line := by
  have oneImage : ∀ left right, line = left ++ right →
      ¬(Holds Edit.image.key.toList left ∧ Holds Edit.image.key.toList right) :=
    fun left right split both => one left right split ⟨.inl both.1, .inl both.2⟩
  have onePoint : ∀ left right, line = left ++ right →
      ¬(Holds Edit.point.key.toList left ∧ Holds Edit.point.key.toList right) :=
    fun left right split both => one left right split ⟨.inr both.1, .inr both.2⟩
  rw [DrawnOnce, drawn]
  rcases apply_once .image oneImage with stays | ⟨kept, piece, rest, found, split, reads, wrote⟩
  · rw [stays]
    rcases apply_once .point onePoint with same | ⟨kept, piece, rest, found, split, reads, wrote⟩
    · rw [same]
      exact ⟨(apply_rests_iff .image line).mp stays, (apply_rests_iff .point line).mp same⟩
    · obtain ⟨name, space, gap₁, x, gap₂, y, gap₃, gap₄, colour, shape, sameName, -, -, -, -, -, -,
        -, groups⟩ := Edit.reads_point _ _ _ _ reads
      have word : HoldsDrawing name := .inr ⟨name, sameName, List.infix_rfl⟩
      rw [shape] at split
      simp only [List.append_assoc name] at split
      obtain ⟨before, parts⟩ := around_drawing one split word
      rw [wrote, Edit.write_point groups]
      apply no_point_written before (parts x ?_) (parts y ?_) (parts colour ?_) (parts rest ?_)
      · exact ⟨space ++ ['('] ++ gap₁, [','] ++ gap₂ ++ y ++ [')'] ++ gap₃ ++ [','] ++ gap₄ ++
          colour ++ rest, by simp⟩
      · exact ⟨space ++ ['('] ++ gap₁ ++ x ++ [','] ++ gap₂, [')'] ++ gap₃ ++ [','] ++ gap₄ ++
          colour ++ rest, by simp⟩
      · exact ⟨space ++ ['('] ++ gap₁ ++ x ++ [','] ++ gap₂ ++ y ++ [')'] ++ gap₃ ++ [','] ++ gap₄,
          rest, by simp⟩
      · exact (List.suffix_append _ rest).isInfix
  · obtain ⟨name, space, gap₁, width, gap₂, height, gap₃, depth, shape, sameName, -, -, -, -,
      groups⟩ := Edit.reads_image _ _ _ _ reads
    have word : HoldsDrawing name := .inl ⟨name, sameName, List.infix_rfl⟩
    rw [shape] at split
    simp only [List.append_assoc name] at split
    obtain ⟨before, parts⟩ := around_drawing one split word
    have none : ¬HoldsDrawing (Edit.image.apply line) := by
      rw [wrote, Edit.write_image groups]
      apply not_drawing_tracked before (parts width ?_) (parts height ?_) (parts rest ?_)
      · exact ⟨space ++ ['('] ++ gap₁, [','] ++ gap₂ ++ height ++ [','] ++ gap₃ ++ depth ++ [')'] ++
          rest, by simp⟩
      · exact ⟨space ++ ['('] ++ gap₁ ++ width ++ [','] ++ gap₂, [','] ++ gap₃ ++ depth ++ [')'] ++
          rest, by simp⟩
      · exact (List.suffix_append _ rest).isInfix
    have noPoint := not_occurs_of_missing .point fun point => none (.inr point)
    rw [(apply_rests_iff .point _).mpr noPoint]
    exact ⟨not_occurs_of_missing .image fun image => none (.inl image), noPoint⟩

/-! The second run. -/

/-- The graphics pass succeeds, and the lines of its source tell whether it has to run again. -/
theorem drawn_again_iff (options : Options) (stamp source : Text) :
    ∃ first, runPass? options stamp .graphics source = some first ∧
      (runPass? options stamp .graphics first.program = some ⟨first.program, []⟩ ↔
        ∀ line, Outside (splitLines source) line → DrawnOnce line) := by
  -- The pass does not look at the stamp.
  change ∃ first, runPass? options [] .graphics source = some first ∧
    (runPass? options [] .graphics first.program = _ ↔ _)
  have drawing : Feature.graphics ≠ .console := by decide
  obtain ⟨draft, drafted⟩ := draft_of_other_pass options [] (splitLines source) drawing
  obtain ⟨first, ran⟩ := pass_of_draft drafted
  refine ⟨first, ran, ?_⟩
  rw [settles_iff unbroken_nil ran, ← no_call_left_iff unbroken_nil (all_unbroken_split source),
    ← agree_but_end_iff call_ignores_end (run_pass_lines unbroken_nil ran),
    untracked_call_iff options [], IdlePass, actionsOf, List.forall_mem_cons,
    List.forall_mem_cons, List.forall_mem_singleton]
  exact and_iff_right (support_rests (block_after_pass unbroken_nil (by decide) ran))

/-- The graphics pass always succeeds, and its second run changes nothing exactly when both edits
find nothing behind themselves on any line outside blocks of the source: in particular when no such
line has two drawing words. -/
theorem drawing_settles_iff (options : Options) (stamp source : Text) :
    ∃ first, runPass? options stamp .graphics source = some first ∧
      (runPass? options stamp .graphics first.program = some ⟨first.program, []⟩ ↔
        ∀ line, Outside (splitLines source) line → DrawnOnce line) ∧
      ((∀ line, Outside (splitLines source) line → OneDrawing line) →
        runPass? options stamp .graphics first.program = some ⟨first.program, []⟩) := by
  obtain ⟨first, ran, settles⟩ := drawn_again_iff options stamp source
  refine ⟨first, ran, settles, ?_⟩
  intro one
  rw [settles]
  exact fun line outside => drawn_once_of_one_drawing (one line outside)

/-- An image on one line and a point on the next. -/
def imageAndPoint : Text := "img = _NEWIMAGE(w, h, 32)\nPSET (x, y), c ' dot".toList

theorem image_and_point_settle : ∃ first, runPass? {} [] .graphics imageAndPoint = some first ∧
    runPass? {} [] .graphics first.program = some ⟨first.program, []⟩ := by
  have single : ∀ entry ∈ masked (splitLines imageAndPoint),
      entry.2 = false → OneDrawing entry.1 := by decide +kernel
  obtain ⟨first, ran, -, settles⟩ := drawing_settles_iff {} [] imageAndPoint
  exact ⟨first, ran, settles fun line outside => single (line, false) outside rfl⟩

/-- The colour of the first point reaches to the end of the line, so the second point is copied with
it, and the second run replaces that one. -/
theorem point_in_else_changes_again : ∃ first,
    runPass? {} [] .graphics "IF a THEN PSET (1, 2), 3 ELSE PSET (4, 5), 6".toList = some first ∧
    runPass? {} [] .graphics first.program ≠ some ⟨first.program, []⟩ := by
  generalize lineEq : "IF a THEN PSET (1, 2), 3 ELSE PSET (4, 5), 6".toList = line
  have twice : ¬DrawnOnce line := by
    rw [← lineEq]
    decide +kernel
  have outside : Outside (splitLines line) line := by
    rw [← lineEq, Outside]
    decide +kernel
  obtain ⟨first, ran, settles⟩ := drawn_again_iff {} [] line
  refine ⟨first, ran, ?_⟩
  rw [ne_eq, settles]
  exact fun once => twice (once line outside)

end BasicBench.Instrument
