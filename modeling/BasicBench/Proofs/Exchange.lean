import BasicBench.Instrument.Pass
import BasicBench.Proofs.TailChange
import BasicBench.Proofs.Trimming

/-!
The edits that put a tracked or checked call in place of a plain one. Each of them leaves a line
alone or exchanges words in it, and up to the first exchanged word the line stays as it was.
What recognises a statement by its first words does not notice such an exchange.
-/

set_option autoImplicit false

namespace BasicBench.Instrument

open Text Pattern

/-- The statements that are edited inside a line. -/
inductive Edit where
  | freefile | image | point
  deriving DecidableEq, Repr

namespace Edit

def all : List Edit := [freefile, image, point]

theorem mem_all (edit : Edit) : edit ∈ all := by cases edit <;> simp [all]

def pattern : Edit → Pattern
  | freefile => keyword "FREEFILE"
  | image => newimageCall
  | point => psetStatement

def write : Edit → Found → Text
  | freefile => fun _ => "ResourceManager_GetFileHandle%".toList
  | image => trackedImage
  | point => safePset

def apply (edit : Edit) (line : Text) : Text := edit.pattern.replaceAll edit.write line

/-- The word that an edit looks for. -/
def key : Edit → String
  | freefile => "FREEFILE"
  | image => "_NEWIMAGE"
  | point => "PSET"

/-- How the text begins that an edit puts there. -/
def call : Edit → String
  | freefile => "ResourceManager_GetFileHandle%"
  | image => "GraphicsManager_CreateImage&("
  | point => "CALL GraphicsManager_SafePSET("

/-- Whether an edit respects the beginning of a word. -/
def fresh : Edit → Bool
  | freefile | point => true
  | image => false

/-! What the patterns take. -/

/-- An image call: its three arguments between parentheses and commas. -/
theorem reads_image (before : Option Char) (piece rest : Text) (found : List (Nat × Text))
    (reads : newimageCall.Reads before piece rest found) :
    ∃ name space gap₁ width gap₂ height gap₃ depth,
      piece = name ++ space ++ ['('] ++ gap₁ ++ width ++ [','] ++ gap₂ ++ height ++ [','] ++
        gap₃ ++ depth ++ [')'] ∧
      SameText "_NEWIMAGE".toList name ∧ (∀ c ∈ space, isSpace c = true) ∧
      (∀ c ∈ gap₁, isSpace c = true) ∧ (∀ c ∈ gap₂, isSpace c = true) ∧
      (∀ c ∈ gap₃, isSpace c = true) ∧ found = [(3, depth), (2, height), (1, width)] := by
  obtain ⟨_, close, rfl, reads, takesClose⟩ := reads_append_plain rfl reads
  obtain ⟨_, depth, _, rfl, rfl, reads, -⟩ := reads_append_capture rfl reads
  obtain ⟨_, gap₃, rfl, reads, takesGap₃⟩ := reads_append_plain rfl reads
  obtain ⟨_, comma₂, rfl, reads, takesComma₂⟩ := reads_append_plain rfl reads
  obtain ⟨_, height, _, rfl, rfl, reads, -⟩ := reads_append_capture rfl reads
  obtain ⟨_, gap₂, rfl, reads, takesGap₂⟩ := reads_append_plain rfl reads
  obtain ⟨_, comma₁, rfl, reads, takesComma₁⟩ := reads_append_plain rfl reads
  obtain ⟨_, width, _, rfl, rfl, reads, -⟩ := reads_append_capture rfl reads
  obtain ⟨_, gap₁, rfl, reads, takesGap₁⟩ := reads_append_plain rfl reads
  obtain ⟨_, open₁, rfl, reads, takesOpen⟩ := reads_append_plain rfl reads
  obtain ⟨name, space, rfl, reads, takesSpace⟩ := reads_append_plain rfl reads
  obtain rfl := plain_reads_nothing _ rfl _ _ _ _ reads
  have takesName : (anyCase "_NEWIMAGE").Takes before name _ := ⟨[], reads⟩
  simp only [takes_one, beq_iff_eq, takes_blanks, takes_any_case] at *
  obtain ⟨_, rfl, rfl⟩ := takesClose
  obtain ⟨_, rfl, rfl⟩ := takesComma₂
  obtain ⟨_, rfl, rfl⟩ := takesComma₁
  obtain ⟨_, rfl, rfl⟩ := takesOpen
  exact ⟨name, space, gap₁, width, gap₂, height, gap₃, depth, rfl, takesName, takesSpace,
    takesGap₁, takesGap₂, takesGap₃, rfl⟩

theorem not_word_head_of_blanks (gap rest : Text) (blank : ∀ c ∈ gap, isSpace c = true)
    (next : rest.head?.any isWordChar = false) : (gap ++ rest).head?.any isWordChar = false := by
  cases gap with
  | nil => exact next
  | cons c gap => exact not_word_char_of_space c (blank c (by simp))

/-- A point statement: its two coordinates between parentheses, its colour, and no word character
right behind it. -/
theorem reads_point (before : Option Char) (piece rest : Text) (found : List (Nat × Text))
    (reads : psetStatement.Reads before piece rest found) :
    ∃ name space gap₁ x gap₂ y gap₃ gap₄ colour,
      piece = name ++ space ++ ['('] ++ gap₁ ++ x ++ [','] ++ gap₂ ++ y ++ [')'] ++ gap₃ ++
        [','] ++ gap₄ ++ colour ∧
      SameText "PSET".toList name ∧ (∀ c ∈ space, isSpace c = true) ∧
      (∀ c ∈ gap₁, isSpace c = true) ∧ (∀ c ∈ gap₂, isSpace c = true) ∧
      (∀ c ∈ gap₃, isSpace c = true) ∧ (∀ c ∈ gap₄, isSpace c = true) ∧
      before.any isWordChar = false ∧ rest.head?.any isWordChar = false ∧
      found = [(3, colour), (2, y), (1, x)] := by
  obtain ⟨_, stop, rfl, reads, takesStop⟩ := reads_append_plain rfl reads
  obtain ⟨_, colour, _, rfl, rfl, reads, -⟩ := reads_append_capture rfl reads
  obtain ⟨_, gap₄, rfl, reads, takesGap₄⟩ := reads_append_plain rfl reads
  obtain ⟨_, comma₂, rfl, reads, takesComma₂⟩ := reads_append_plain rfl reads
  obtain ⟨_, gap₃, rfl, reads, takesGap₃⟩ := reads_append_plain rfl reads
  obtain ⟨_, close, rfl, reads, takesClose⟩ := reads_append_plain rfl reads
  obtain ⟨_, y, _, rfl, rfl, reads, -⟩ := reads_append_capture rfl reads
  obtain ⟨_, gap₂, rfl, reads, takesGap₂⟩ := reads_append_plain rfl reads
  obtain ⟨_, comma₁, rfl, reads, takesComma₁⟩ := reads_append_plain rfl reads
  obtain ⟨_, x, _, rfl, rfl, reads, -⟩ := reads_append_capture rfl reads
  obtain ⟨_, gap₁, rfl, reads, takesGap₁⟩ := reads_append_plain rfl reads
  obtain ⟨_, open₁, rfl, reads, takesOpen⟩ := reads_append_plain rfl reads
  obtain ⟨_, space, rfl, reads, takesSpace⟩ := reads_append_plain rfl reads
  obtain ⟨start, name, rfl, reads, takesName⟩ := reads_append_plain rfl reads
  obtain rfl := plain_reads_nothing _ rfl _ _ _ _ reads
  have takesStart : (notAfter isWordChar).Takes before start _ := ⟨[], reads⟩
  simp only [takes_one, beq_iff_eq, takes_blanks, takes_any_case, takes_not_after,
    takes_ahead] at *
  obtain ⟨rfl, seen, beyond, rfl, takesSeen⟩ := takesStop
  obtain ⟨_, rfl, rfl⟩ := takesComma₂
  obtain ⟨_, rfl, rfl⟩ := takesClose
  obtain ⟨_, rfl, rfl⟩ := takesComma₁
  obtain ⟨_, rfl, rfl⟩ := takesOpen
  obtain ⟨rfl, notWord⟩ := takesStart
  refine ⟨name, space, gap₁, x, gap₂, y, gap₃, gap₄, colour, by simp, takesName, takesSpace,
    takesGap₁, takesGap₂, takesGap₃, takesGap₄, notWord, ?_, rfl⟩
  simp only [takes_append, takes_blanks, takes_or, takes_text_end, takes_one] at takesSeen
  obtain ⟨gap, mark, rfl, blank, ⟨rfl, nothing | newline⟩ | ⟨c, separates, rfl⟩⟩ := takesSeen
  · subst nothing
    simpa using not_word_head_of_blanks gap [] blank rfl
  · subst newline
    simpa using not_word_head_of_blanks gap ['\n'] blank (by decide)
  · rw [List.append_assoc]
    refine not_word_head_of_blanks gap _ blank ?_
    have either : c = ':' ∨ c = '\'' := by simpa [among] using separates
    rcases either with rfl | rfl <;> simp only [List.cons_append, List.head?_cons,
      Option.any_some] <;> decide

/-- Any edit begins at its key. -/
theorem reads_key (edit : Edit) (before : Option Char) (piece rest : Text)
    (found : List (Nat × Text)) (reads : edit.pattern.Reads before piece rest found) :
    Follows edit.fresh before ∧ Opens edit.key.toList piece := by
  cases edit with
  | freefile =>
      have taken : (keyword "FREEFILE").Takes before piece rest := ⟨found, reads⟩
      simp only [keyword, takes_append, takes_word_edge, takes_any_case] at taken
      obtain ⟨_, _, rfl, ⟨_, name, rfl, ⟨rfl, edge⟩, sameName⟩, rfl, -⟩ := taken
      refine ⟨fun _ => ?_, name, [], by simp, sameName⟩
      rw [show "FREEFILE".toList = 'F' :: "REEFILE".toList by simp] at sameName
      cases sameName with
      | cons letter others =>
          have word := word_char_of_same_letter letter
          rw [show isWordChar 'F' = true by decide] at word
          simpa [← word] using edge
  | image =>
      obtain ⟨name, space, gap₁, width, gap₂, height, gap₃, depth, rfl, sameName, -⟩ :=
        reads_image _ _ _ _ reads
      exact ⟨fun isFresh => absurd isFresh (by decide), name,
        space ++ ['('] ++ gap₁ ++ width ++ [','] ++ gap₂ ++ height ++ [','] ++ gap₃ ++ depth ++ [')'],
        by simp only [List.append_assoc], sameName⟩
  | point =>
      obtain ⟨name, space, gap₁, x, gap₂, y, gap₃, gap₄, colour, rfl, sameName, -, -, -, -, -,
        notWord, -⟩ := reads_point _ _ _ _ reads
      exact ⟨fun _ => notWord, name,
        space ++ ['('] ++ gap₁ ++ x ++ [','] ++ gap₂ ++ y ++ [')'] ++ gap₃ ++ [','] ++ gap₄ ++ colour,
        by simp only [List.append_assoc], sameName⟩

theorem takes_nonempty (edit : Edit) (before : Option Char) (rest : Text) :
    ¬edit.pattern.Takes before [] rest := by
  rintro ⟨found, reads⟩
  obtain ⟨-, form, more, split, same⟩ := reads_key edit _ _ _ _ reads
  obtain ⟨rfl, -⟩ := List.append_eq_nil_iff.mp split.symm
  cases edit <;> cases same

theorem rewrites (edit : Edit) (line : Text) :
    edit.pattern.Rewrites edit.write none line (edit.apply line) :=
  rewrites_replace_all edit.pattern edit.write (takes_nonempty edit) line

theorem write_opens (edit : Edit) (found : Found) :
    ∃ more, edit.write found = edit.call.toList ++ more := by
  cases edit with
  | freefile => exact ⟨[], (List.append_nil _).symm⟩
  | image =>
      refine ⟨trim (found.group 1) ++ (", ".toList ++ (trim (found.group 2) ++ [')'])), ?_⟩
      change trackedImage found = "GraphicsManager_CreateImage&(".toList ++ _
      unfold trackedImage
      rw [List.append_assoc, List.append_assoc, List.append_assoc]
  | point =>
      refine ⟨trim (found.group 1) ++ (", ".toList ++ (trim (found.group 2) ++ (", ".toList ++
        (trim (found.group 3) ++ [')'])))), ?_⟩
      change safePset found = "CALL GraphicsManager_SafePSET(".toList ++ _
      unfold safePset
      rw [List.append_assoc, List.append_assoc, List.append_assoc, List.append_assoc,
        List.append_assoc]

theorem write_last (edit : Edit) (found : Found) :
    ∃ c, (edit.write found).getLast? = some c ∧ (c = ')' ∨ c = '%') := by
  cases edit with
  | freefile =>
      refine ⟨'%', ?_, .inr rfl⟩
      change "ResourceManager_GetFileHandle%".toList.getLast? = some '%'
      decide
  | image =>
      refine ⟨')', ?_, .inl rfl⟩
      change (trackedImage found).getLast? = some ')'
      unfold trackedImage
      exact List.getLast?_concat
  | point =>
      refine ⟨')', ?_, .inl rfl⟩
      change (safePset found).getLast? = some ')'
      unfold safePset
      exact List.getLast?_concat

/-- What an edit does to a line it changes: from the first exchanged word to the last one the line
is new, and what stands in front and behind stays. -/
structure Exchange (edit : Edit) (line out kept old new tail : Text) : Prop where
  before : line = kept ++ (old ++ tail)
  after : out = kept ++ (new ++ tail)
  follows : Follows edit.fresh (lastOf none kept)
  opensOld : Opens edit.key.toList old
  opensNew : Opens edit.call.toList new
  closes : ∃ c, new.getLast? = some c ∧ (c = ')' ∨ c = '%')

/-- An edit keeps a line or exchanges words in it. -/
theorem apply_exchanges (edit : Edit) (line : Text) :
    edit.apply line = line ∨
      ∃ kept old new tail, edit.Exchange line (edit.apply line) kept old new tail := by
  suffices general : ∀ before out, edit.pattern.Rewrites edit.write before line out →
      out = line ∨ ∃ kept old new tail, line = kept ++ (old ++ tail) ∧
        out = kept ++ (new ++ tail) ∧ Follows edit.fresh (lastOf before kept) ∧
        Opens edit.key.toList old ∧ Opens edit.call.toList new ∧
        ∃ c, new.getLast? = some c ∧ (c = ')' ∨ c = '%') by
    rcases general none _ (edit.rewrites line) with same | ⟨kept, old, new, tail, changed⟩
    · exact .inl same
    · obtain ⟨before, after, follows, opensOld, opensNew, closes⟩ := changed
      exact .inr ⟨kept, old, new, tail, before, after, follows, opensOld, opensNew, closes⟩
  intro before out rewrites
  induction rewrites with
  | done => exact .inl rfl
  | keep before c rest out _ _ induction =>
      rcases induction with rfl | ⟨kept, old, new, tail, rfl, rfl, follows, changed⟩
      · exact .inl rfl
      · exact .inr ⟨c :: kept, old, new, tail, rfl, rfl, by simpa using follows, changed⟩
  | swap before piece rest out found _ reads _ induction =>
      obtain ⟨follows, opens⟩ := reads_key edit _ _ _ _ reads
      obtain ⟨others, written⟩ := write_opens edit found
      have opensNew : ∀ more, Opens edit.call.toList (edit.write found ++ more) := by
        intro more
        rw [written, List.append_assoc]
        exact opens_append _ _
      rcases induction with rfl | ⟨kept, old, new, tail, rfl, rfl, -, -, -, c, last, closes⟩
      · refine .inr ⟨[], piece, edit.write found, out, rfl, rfl, follows, opens, ?_,
          edit.write_last found⟩
        simpa using opensNew []
      · refine .inr ⟨[], piece ++ kept ++ old, edit.write found ++ kept ++ new, tail, by simp,
          by simp, follows, ?_, ?_, c, ?_, closes⟩
        · obtain ⟨form, more, rfl, same⟩ := opens
          exact ⟨form, more ++ kept ++ old, by simp, same⟩
        · simpa using opensNew (kept ++ new)
        · rw [List.getLast?_append, last, Option.some_or]

/-- What is written for an image call: its width and height, without the depth. -/
theorem write_image {found : Found} {width height depth : Text}
    (groups : found.groups = [(3, depth), (2, height), (1, width)]) :
    image.write found = "GraphicsManager_CreateImage&(".toList ++ trim width ++ ", ".toList ++
      trim height ++ [')'] := by
  have first : found.group 1 = width := by
    rw [Found.group, Found.group?, groups]
    rfl
  have second : found.group 2 = height := by
    rw [Found.group, Found.group?, groups]
    rfl
  change trackedImage found = _
  unfold trackedImage
  rw [first, second]

theorem write_point {found : Found} {x y colour : Text}
    (groups : found.groups = [(3, colour), (2, y), (1, x)]) :
    point.write found = "CALL GraphicsManager_SafePSET(".toList ++ trim x ++ ", ".toList ++
      trim y ++ ", ".toList ++ trim colour ++ [')'] := by
  have first : found.group 1 = x := by
    rw [Found.group, Found.group?, groups]
    rfl
  have second : found.group 2 = y := by
    rw [Found.group, Found.group?, groups]
    rfl
  have third : found.group 3 = colour := by
    rw [Found.group, Found.group?, groups]
    rfl
  change safePset found = _
  unfold safePset
  rw [first, second, third]

/-- What an edit writes for an unbroken piece is unbroken. -/
theorem write_unbroken (edit : Edit) (before : Option Char) (piece rest : Text) (found : Found)
    (reads : edit.pattern.Reads before piece rest found.groups) (unbroken : Unbroken piece) :
    Unbroken (edit.write found) := by
  have fixed : Unbroken "ResourceManager_GetFileHandle%".toList ∧
      Unbroken "GraphicsManager_CreateImage&(".toList ∧
      Unbroken "CALL GraphicsManager_SafePSET(".toList ∧ Unbroken ", ".toList ∧ Unbroken [')'] := by
    decide
  obtain ⟨freefileText, imageText, pointText, comma, close⟩ := fixed
  cases edit with
  | freefile => exact freefileText
  | image =>
      obtain ⟨name, space, gap₁, width, gap₂, height, gap₃, depth, rfl, -, -, -, -, -, groups⟩ :=
        reads_image _ _ _ _ reads
      have widthTrimmed : Unbroken (trim width) :=
        unbroken_trim _ fun c member => unbroken c (by simp [member])
      have heightTrimmed : Unbroken (trim height) :=
        unbroken_trim _ fun c member => unbroken c (by simp [member])
      rw [write_image groups, unbroken_append, unbroken_append, unbroken_append, unbroken_append]
      exact ⟨⟨⟨⟨imageText, widthTrimmed⟩, comma⟩, heightTrimmed⟩, close⟩
  | point =>
      obtain ⟨name, space, gap₁, x, gap₂, y, gap₃, gap₄, colour, rfl, -, -, -, -, -, -, -, -,
        groups⟩ := reads_point _ _ _ _ reads
      have xTrimmed : Unbroken (trim x) :=
        unbroken_trim _ fun c member => unbroken c (by simp [member])
      have yTrimmed : Unbroken (trim y) :=
        unbroken_trim _ fun c member => unbroken c (by simp [member])
      have colourTrimmed : Unbroken (trim colour) :=
        unbroken_trim _ fun c member => unbroken c (by simp [member])
      rw [write_point groups, unbroken_append, unbroken_append, unbroken_append, unbroken_append,
        unbroken_append, unbroken_append]
      exact ⟨⟨⟨⟨⟨⟨pointText, xTrimmed⟩, comma⟩, yTrimmed⟩, comma⟩, colourTrimmed⟩, close⟩

theorem unbroken_apply (edit : Edit) (line : Text) (unbroken : Unbroken line) :
    Unbroken (edit.apply line) := by
  have rewrites := edit.rewrites line
  generalize edit.apply line = out at rewrites
  generalize (none : Option Char) = before at rewrites
  induction rewrites with
  | done => exact unbroken
  | keep before c rest out _ _ induction =>
      intro d member
      rcases List.mem_cons.mp member with rfl | later
      · exact unbroken d (by simp)
      · exact induction (fun e inside => unbroken e (by simp [inside])) d later
  | swap before piece rest out found _ reads _ induction =>
      rw [unbroken_append] at unbroken ⊢
      exact ⟨write_unbroken edit _ _ _ _ reads unbroken.1, induction unbroken.2⟩

/-! Patterns that do not notice edits. -/

/-- A capital or an underscore all of whose forms open names: `I`, `S` and `K` have forms beyond
ASCII. -/
def opensNames (c : Char) : Bool :=
  Token.isNameStart c && capital c == c && !(['I', 'S', 'K'].contains c)

theorem name_start_of_same_letter (c d : Char) (opens : opensNames c = true)
    (same : sameLetter c d = true) : Token.isNameStart d = true := by
  simp only [opensNames, Bool.and_eq_true, beq_iff_eq, Bool.not_eq_true', List.contains_eq_mem,
    decide_eq_false_iff_not] at opens
  obtain ⟨⟨start, fixed⟩, plain⟩ := opens
  have form : capital d = c := by rw [← beq_iff_eq.mp same, fixed]
  rcases capital_codes d with ⟨low, high, -⟩ | ⟨-, code⟩ | ownCapital
  · simp [Token.isNameStart, isLetter, low, high]
  · rw [form] at code
    have special : c.toNat = 'I'.toNat ∨ c.toNat = 'S'.toNat ∨ c.toNat = 'K'.toNat := by
      simpa using code
    simp only [Char.toNat_inj] at special
    simp [special] at plain
  · rw [← ownCapital, form]
    exact start

theorem name_head_of_opens {c : Char} {word text : Text} (head : opensNames c = true)
    (opens : Opens (c :: word) text) : NameHead text := by
  obtain ⟨form, more, rfl, same⟩ := opens
  cases same with
  | cons letter others => exact ⟨_, _, rfl, name_start_of_same_letter _ _ head letter⟩

theorem key_head (edit : Edit) : ∃ c word, edit.key.toList = c :: word ∧ opensNames c = true := by
  cases edit with
  | freefile => exact ⟨'F', "REEFILE".toList, by decide, by decide⟩
  | image => exact ⟨'_', "NEWIMAGE".toList, by decide, by decide⟩
  | point => exact ⟨'P', "SET".toList, by decide, by decide⟩

theorem call_head (edit : Edit) : ∃ c word, edit.call.toList = c :: word ∧ opensNames c = true := by
  cases edit with
  | freefile => exact ⟨'R', "esourceManager_GetFileHandle%".toList, by decide, by decide⟩
  | image => exact ⟨'G', "raphicsManager_CreateImage&(".toList, by decide, by decide⟩
  | point => exact ⟨'C', "ALL GraphicsManager_SafePSET(".toList, by decide, by decide⟩

theorem name_head_of_key (edit : Edit) {text : Text} (opens : Opens edit.key.toList text) :
    NameHead text := by
  obtain ⟨c, word, split, head⟩ := edit.key_head
  exact name_head_of_opens head (split ▸ opens)

theorem name_head_of_call (edit : Edit) {text : Text} (opens : Opens edit.call.toList text) :
    NameHead text := by
  obtain ⟨c, word, split, head⟩ := edit.call_head
  exact name_head_of_opens head (split ▸ opens)

/-- A pattern that reads the same before and after any edit further on. -/
def Steady (pattern : Pattern) : Prop :=
  ∀ (edit : Edit) (old new : Text), Opens edit.key.toList old → Opens edit.call.toList new →
    pattern.StopsShort edit.fresh old new ∧ pattern.StopsShort edit.fresh new old

theorem steady_append {first second : Pattern} (left : Steady first) (right : Steady second) :
    Steady (first ++ second) :=
  fun edit old new opensOld opensNew =>
    ⟨stops_short_append (left edit old new opensOld opensNew).1
        (right edit old new opensOld opensNew).1,
      stops_short_append (left edit old new opensOld opensNew).2
        (right edit old new opensOld opensNew).2⟩

theorem steady_or {first second : Pattern} (left : Steady first) (right : Steady second) :
    Steady (first ||| second) :=
  fun edit old new opensOld opensNew =>
    ⟨stops_short_or (left edit old new opensOld opensNew).1 (right edit old new opensOld opensNew).1,
      stops_short_or (left edit old new opensOld opensNew).2
        (right edit old new opensOld opensNew).2⟩

theorem steady_capture {inner : Pattern} (index : Nat) (steady : Steady inner) :
    Steady (capture index inner) :=
  fun edit old new opensOld opensNew =>
    ⟨stops_short_capture index (steady edit old new opensOld opensNew).1,
      stops_short_capture index (steady edit old new opensOld opensNew).2⟩

theorem steady_optional {inner : Pattern} (steady : Steady inner) : Steady (optional inner) :=
  steady_or steady fun _ _ _ _ _ => ⟨stops_short_here, stops_short_here⟩

theorem steady_text_start : Steady textStart :=
  fun _ _ _ _ _ => ⟨stops_short_text_start, stops_short_text_start⟩

theorem steady_text_end : Steady textEnd :=
  fun edit _ _ opensOld opensNew =>
    ⟨stops_short_text_end (edit.name_head_of_key opensOld),
      stops_short_text_end (edit.name_head_of_call opensNew)⟩

theorem steady_word_edge : Steady wordEdge :=
  fun edit _ _ opensOld opensNew =>
    have oldHead := edit.name_head_of_key opensOld
    have newHead := edit.name_head_of_call opensNew
    ⟨stops_short_word_edge oldHead newHead, stops_short_word_edge newHead oldHead⟩

theorem steady_one {accepts : Char → Bool}
    (refused : ∀ c, Token.isNameStart c = true → accepts c = false) : Steady (one accepts) :=
  fun edit _ _ opensOld opensNew =>
    ⟨stops_short_one refused (edit.name_head_of_key opensOld),
      stops_short_one refused (edit.name_head_of_call opensNew)⟩

theorem steady_many {accepts : Char → Bool}
    (refused : ∀ c, Token.isNameStart c = true → accepts c = false) : Steady (many accepts) :=
  fun edit _ _ opensOld opensNew =>
    ⟨stops_short_many refused (edit.name_head_of_key opensOld),
      stops_short_many refused (edit.name_head_of_call opensNew)⟩

theorem steady_blanks : Steady blanks := steady_many not_space_of_name_start

theorem steady_blanks1 : Steady blanks1 :=
  steady_append (steady_one not_space_of_name_start) steady_blanks

/-- No end of the word agrees with a key or a call. -/
def isApart (word : Text) : Bool :=
  all.all fun edit => keepsApart edit.fresh edit.key.toList none word &&
    keepsApart edit.fresh edit.call.toList none word

theorem apart_of_is_apart {word : Text} (apart : isApart word = true) (edit : Edit) :
    keepsApart edit.fresh edit.key.toList none word = true ∧
      keepsApart edit.fresh edit.call.toList none word = true := by
  have checked := List.all_eq_true.mp apart edit edit.mem_all
  simpa using checked

theorem steady_any_case (word : String) (apart : isApart word.toList = true) :
    Steady (anyCase word) :=
  fun edit _ _ opensOld opensNew =>
    ⟨stops_short_any_case word opensOld (apart_of_is_apart apart edit).1,
      stops_short_any_case word opensNew (apart_of_is_apart apart edit).2⟩

theorem steady_exactly (word : String) (apart : isApart word.toList = true) :
    Steady (exactly word) :=
  fun edit _ _ opensOld opensNew =>
    ⟨stops_short_exactly word opensOld (apart_of_is_apart apart edit).1,
      stops_short_exactly word opensNew (apart_of_is_apart apart edit).2⟩

theorem opens_left {word text more : Text} (opens : Opens word text) : Opens word (text ++ more) := by
  obtain ⟨form, others, rfl, same⟩ := opens
  exact ⟨form, others ++ more, by simp, same⟩

theorem starts_text_apply {pattern : Pattern} (steady : Steady pattern) (edit : Edit)
    (line : Text) : pattern.startsText (edit.apply line) = pattern.startsText line := by
  rcases edit.apply_exchanges line with same | ⟨kept, old, new, tail, exchange⟩
  · rw [same]
  · have stops := steady edit (old ++ tail) (new ++ tail) (opens_left exchange.opensOld)
      (opens_left exchange.opensNew)
    rw [exchange.after]
    conv => rhs; rw [exchange.before]
    exact (starts_text_congr stops.1 stops.2 kept exchange.follows).symm

end Edit

open Edit

theorem steady_console_directive : Steady consoleDirective :=
  steady_append (steady_append (steady_append steady_text_start steady_blanks)
    (steady_any_case "$CONSOLE" (by decide))) steady_word_edge

theorem steady_console_off : Steady consoleOff := by
  have colon : Steady (one (· == ':')) := steady_one (by
    rintro c start
    cases mark : c == ':' with
    | false => rfl
    | true => rw [beq_iff_eq.mp mark] at start; exact absurd start (by decide))
  exact steady_append (steady_append (steady_append (steady_append (steady_append (steady_append
    (steady_append (steady_append steady_text_start steady_blanks)
      (steady_any_case "$CONSOLE" (by decide))) steady_blanks) colon) steady_blanks)
        (steady_any_case "OFF" (by decide))) steady_blanks) steady_text_end

theorem steady_bare_end : Steady bareEnd :=
  steady_append (steady_append (steady_append (steady_append steady_text_start
    (steady_capture 1 steady_blanks)) (steady_any_case "END" (by decide))) steady_blanks)
      steady_text_end

theorem not_decimal_of_name_start (c : Char) (start : Token.isNameStart c = true) :
    isDecimal c = false := by
  simp only [Token.isNameStart, Bool.or_eq_true, beq_iff_eq] at start
  rcases start with letter | rfl
  · simp only [isLetter, Bool.or_eq_true, Bool.and_eq_true, decide_eq_true_eq] at letter
    simp only [isDecimal, isDigit]
    rw [if_pos (by omega)]
    simp only [Bool.and_eq_false_iff, decide_eq_false_iff_not]
    omega
  · decide

theorem steady_bare_system : Steady bareSystem :=
  steady_append (steady_append (steady_append (steady_append (steady_append steady_text_start
    steady_blanks) (steady_any_case "SYSTEM" (by decide)))
      (steady_optional (steady_capture 1 (steady_append steady_blanks1
        (steady_append (steady_one not_decimal_of_name_start)
          (steady_many not_decimal_of_name_start)))))) steady_blanks) steady_text_end

theorem steady_procedure_word :
    Steady (capture 1 (anyCase "SUB" ||| anyCase "FUNCTION")) :=
  steady_capture 1 (steady_or (steady_any_case "SUB" (by decide))
    (steady_any_case "FUNCTION" (by decide)))

theorem steady_procedure_start : Steady procedureStart :=
  steady_append (steady_append (steady_append steady_text_start steady_blanks)
    steady_procedure_word) (steady_one not_space_of_name_start)

theorem steady_procedure_end : Steady procedureEnd :=
  steady_append (steady_append (steady_append (steady_append (steady_append steady_text_start
    steady_blanks) (steady_any_case "END" (by decide))) steady_blanks1)
      steady_procedure_word) steady_word_edge

theorem steady_wrapper_head : Steady wrapperHead :=
  steady_append (steady_append (steady_append (steady_append (steady_append steady_text_start
    steady_blanks) (steady_any_case "SUB" (by decide))) steady_blanks1)
      (steady_any_case "AutoTestWrapper" (by decide))) steady_word_edge

end BasicBench.Instrument
