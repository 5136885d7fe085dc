import BasicBench.Proofs.Delays
import BasicBench.Proofs.Idempotence
import BasicBench.Proofs.StoreOperations
import BasicBench.Sessions.Enhance

/-!
What is left of an enhancement that fails. Options that cannot be read, and ids that are all taken,
stop it before a session is opened. The instrumentation fails for one reason only, a delay that is
too large for a number, and by then the session is in the store.
-/

set_option autoImplicit false

namespace BasicBench.Instrument

open Text

theorem console_lines_none_iff (options : Options) (stamp : Text) (lines : List Text) :
    consoleLines? options lines = none ↔
      hasBlock .console (performAll options stamp [.normalize, .direct] lines) = false ∧
        longTimeout ≤ options.timeout.natAbs := by
  rw [← console_block_none_iff options.timeout options.autoExit]
  constructor
  · intro failed
    by_contra builds
    have succeeds : hasBlock .console (performAll options stamp [.normalize, .direct] lines) = true ∨
        (consoleBlock? options.timeout options.autoExit).isSome = true := by
      rw [not_and_or, Bool.not_eq_false, ← ne_eq, Option.ne_none_iff_isSome] at builds
      exact builds
    have drafted := (console_lines_iff options stamp lines _).mpr ⟨succeeds, rfl⟩
    rw [failed] at drafted
    exact absurd drafted (by simp)
  · rintro ⟨missing, unbuilt⟩
    cases drafted : consoleLines? options lines with
    | none => rfl
    | some draft =>
        obtain ⟨present | built, -⟩ := (console_lines_iff options stamp lines draft).mp drafted
        · exact absurd (present.symm.trans missing) (by decide)
        · rw [unbuilt] at built
          exact absurd built (by decide)

/-- The instrumentation fails exactly where the console block is missing and its delay is too
large. -/
theorem instrument_none_iff (options : Options) (mode : Mode) (stamp source : Text) :
    instrument? options mode stamp source = none ↔
      options.console = true ∧ hasBlock .console (splitLines source) = false ∧
        longTimeout ≤ options.timeout.natAbs := by
  have leading : hasBlock .console
      (performAll options stamp [.normalize, .direct] (splitLines source)) =
      hasBlock .console (splitLines source) := by
    rw [Bool.eq_iff_iff, has_block_iff, has_block_iff]
    exact iff_of_eq (congrArg (0 < ·) (count_marker_leading options stamp .console .console _
      (all_unbroken_split source)))
  have console : runPass? options stamp .console source = none ↔
      hasBlock .console (splitLines source) = false ∧ longTimeout ≤ options.timeout.natAbs := by
    rw [run_pass_eq, Option.map_eq_none_iff, passDraft?, console_lines_none_iff, leading]
  rw [instrument?, Option.map_eq_none_iff]
  cases shows : options.console with
  | false =>
      obtain ⟨revision, ran⟩ := passes_succeed options stamp (selected options mode) source
        fun feature member => by
          rintro rfl
          have chosen := (List.mem_filter.mp member).2
          rw [isSelected, shows] at chosen
          exact absurd chosen (by decide)
      simp [ran]
  | true =>
      have order : Feature.all =
          [] ++ .console :: [.flowControl, .resources, .graphics, .logging, .screenshots] := rfl
      rw [selected_around order shows, List.filter_nil, List.nil_append, runPasses?,
        Option.bind_eq_bind, ← console]
      cases first : runPass? options stamp .console source with
      | none => simp
      | some revision =>
          obtain ⟨last, ran⟩ := passes_succeed options stamp
            ([Feature.flowControl, .resources, .graphics, .logging, .screenshots].filter
              (isSelected options mode)) revision.program (by simp)
          simp [ran]

theorem read_positive {value : Json} {number : Int}
    (read : Json.readPositive value = .ok number) : 0 < number := by
  rw [Json.readPositive] at read
  cases whole : Json.readInteger value with
  | wrong problems => simp [whole, Json.Reading.andThen] at read
  | ok given =>
      rw [whole, Json.Reading.andThen] at read
      split at read
      next positive =>
        obtain rfl := Json.Reading.ok.inj read
        exact positive
      next => exact absurd read (by simp [Json.Reading.fail])

theorem field_positive {names : List String} {record : Json} {number : Int}
    (read : Json.field names Json.readPositive (.ok 30) record = .ok number) : 0 < number := by
  rw [Json.field] at read
  split at read
  next name value found =>
    cases given : Json.readPositive value with
    | wrong problems => simp [given, Json.Reading.below] at read
    | ok given' =>
        rw [given, Json.Reading.below] at read
        obtain rfl := Json.Reading.ok.inj read
        exact read_positive given
  next =>
    obtain rfl := Json.Reading.ok.inj read
    decide

/-- Options that were read have a timeout. -/
theorem timeout_positive_of_read {value : Json} {options : Options}
    (read : Options.read value = .ok options) : 0 < options.timeout := by
  cases value with
  | null =>
      obtain rfl := Json.Reading.ok.inj read
      decide
  | object members =>
      simp only [Options.read, Json.Reading.part_ok_iff] at read
      obtain ⟨_, _, ⟨_, _, ⟨_, timeout, ⟨_, _, ⟨_, _, ⟨_, _, ⟨_, _, ⟨_, _, made, _, rfl⟩, _, rfl⟩, _,
        rfl⟩, _, rfl⟩, _, rfl⟩, given, rfl⟩, _, rfl⟩, _, rfl⟩ := read
      obtain rfl := Json.Reading.ok.inj made
      exact field_positive given
  | _ => exact absurd read (by simp [Options.read, Json.Reading.fail])

end BasicBench.Instrument

namespace BasicBench.Sessions

open Instrument Text

/-- Options that ask for a console block whose delay is too large, for a program without one. -/
def Request.WaitsTooLong (request : Request) : Prop :=
  ∃ options, Options.read request.options = .ok options ∧ options.console = true ∧
    hasBlock .console (splitLines request.source) = false ∧ longTimeout ≤ options.timeout

namespace Store

variable {store opened : Store} {request : Request} {circumstances : Circumstances}
  {session : Session}

/-- What opening a session for a program makes: one more active session, behind the others. -/
structure OpensSession (store : Store) (request : Request) (circumstances : Circumstances)
    (session : Session) (opened : Store) : Prop where
  read : Options.read request.options = .ok session.options
  source : session.source = request.source
  projectPath : session.projectPath = request.projectPath
  mode : session.mode = Mode.detect request.source
  active : session.status = .active
  offered : session.id ∈ circumstances.ids
  free : session.id ∉ store.ids
  sessions : opened.sessions = store.sessions ++ [session]

theorem opens_of_open_session
    (opens : store.openSession request circumstances = .ok (session, opened)) :
    OpensSession store request circumstances session opened := by
  rw [openSession] at opens
  split at opens
  next problems => exact absurd opens (by simp)
  next options read =>
    simp only [] at opens
    split at opens
    next created made =>
      obtain rfl := Except.ok.inj opens
      obtain ⟨id, offered, free, rfl, sessions⟩ := create_some made
      exact ⟨read, rfl, rfl, rfl, rfl, offered, free, sessions⟩
    next => exact absurd opens (by simp)

/-- A session is opened exactly for options that can be read and with an id that is free. -/
theorem open_session_iff :
    (∃ session opened, store.openSession request circumstances = .ok (session, opened)) ↔
      (∃ options, Options.read request.options = .ok options) ∧
        ∃ id ∈ circumstances.ids, id ∉ store.ids := by
  constructor
  · rintro ⟨session, opened, opens⟩
    have opens := opens_of_open_session opens
    exact ⟨⟨_, opens.read⟩, session.id, opens.offered, opens.free⟩
  · rintro ⟨⟨options, read⟩, id, offered, free⟩
    rw [openSession, read]
    simp only []
    split
    next created made => exact ⟨_, _, rfl⟩
    next none =>
      exact absurd ((create_none_iff _ _ _).mp none id offered) free

namespace OpensSession

variable (opens : OpensSession store request circumstances session opened)
include opens

theorem active_eq : opened.active = store.active ++ [session] := by
  simp [Store.active, opens.sessions, opens.active]

theorem size_eq : opened.size = store.size + 1 := by
  rw [size, opens.sessions, List.length_append]
  rfl

theorem store_changed : opened ≠ store := by
  rintro rfl
  have size := opens.size_eq
  omega

end OpensSession

/-- The instrumentation of an opened session fails for a wait that is too long. -/
theorem instrument_fails_iff (opens : OpensSession store request circumstances session opened) :
    instrument? session.options session.mode circumstances.stamp request.source = none ↔
      request.WaitsTooLong := by
  have positive := timeout_positive_of_read opens.read
  rw [instrument_none_iff]
  constructor
  · rintro ⟨shows, missing, long⟩
    exact ⟨session.options, opens.read, shows, missing, by omega⟩
  · rintro ⟨options, read, shows, missing, long⟩
    obtain rfl := Json.Reading.ok.inj (opens.read.symm.trans read)
    exact ⟨shows, missing, by omega⟩

/-- How an enhancement can fail: before the session is opened, or for a wait that is too long, and
then with the session in the store. -/
theorem failed_enhancement_cases {fault : EnhanceFault}
    (failed : (store.enhance request circumstances).2 = .error fault) :
    (fault ≠ .delayTooLarge ∧ (store.enhance request circumstances).1 = store ∧
      ¬∃ session opened, store.openSession request circumstances = .ok (session, opened)) ∨
    (fault = .delayTooLarge ∧ request.WaitsTooLong ∧
      ∃ session, OpensSession store request circumstances session
        (store.enhance request circumstances).1) := by
  rw [enhance] at failed ⊢
  cases began : store.openSession request circumstances with
  | error early =>
      rw [began] at failed
      obtain rfl := Except.error.inj failed
      refine .inl ⟨?_, rfl, by simp⟩
      rintro rfl
      rw [openSession] at began
      split at began
      · exact absurd began (by simp)
      · simp only [] at began
        split at began <;> exact absurd began (by simp)
  | ok result =>
      obtain ⟨session, opened⟩ := result
      have opens := opens_of_open_session began
      rw [began] at failed
      simp only [] at failed ⊢
      cases instrumented : instrument? session.options session.mode circumstances.stamp
          request.source with
      | none =>
          rw [instrumented] at failed
          obtain rfl := Except.error.inj failed
          exact .inr ⟨rfl, (instrument_fails_iff opens).mp instrumented, session, opens⟩
      | some out =>
          rw [instrumented] at failed
          exact absurd failed (by simp)

/-- A wait that is too long makes an enhancement fail wherever a session can be opened. -/
theorem long_wait_fails (long : request.WaitsTooLong)
    (free : ∃ id ∈ circumstances.ids, id ∉ store.ids) :
    (store.enhance request circumstances).2 = .error .delayTooLarge := by
  obtain ⟨options, read, -⟩ := id long
  obtain ⟨session, opened, began⟩ := open_session_iff.mpr ⟨⟨options, read⟩, free⟩
  have none := (instrument_fails_iff (opens_of_open_session began)).mpr long
  rw [enhance, began]
  simp only [none]

/-- A failed enhancement leaves the store as it was, but for a wait that is too long: that one
fails with a session already opened, and the store keeps it as an active one. -/
theorem store_after_failure (store : Store) (request : Request) (circumstances : Circumstances)
    (fault : EnhanceFault) (failed : (store.enhance request circumstances).2 = .error fault) :
    ((store.enhance request circumstances).1 = store ↔ fault ≠ .delayTooLarge) ∧
    (fault = .delayTooLarge ↔
      request.WaitsTooLong ∧ ∃ id ∈ circumstances.ids, id ∉ store.ids) ∧
    (fault = .delayTooLarge → ∃ session,
      OpensSession store request circumstances session (store.enhance request circumstances).1 ∧
      (store.enhance request circumstances).1.active = store.active ++ [session] ∧
      (store.enhance request circumstances).1.size = store.size + 1) := by
  rcases failed_enhancement_cases failed with ⟨early, same, unopened⟩ | ⟨rfl, long, session, opens⟩
  · refine ⟨iff_of_true same early, iff_of_false early ?_, fun late => absurd late early⟩
    rintro ⟨⟨options, read, -⟩, free⟩
    exact unopened (open_session_iff.mpr ⟨⟨options, read⟩, free⟩)
  · exact ⟨iff_of_false opens.store_changed (fun late => late rfl),
      iff_of_true rfl ⟨long, session.id, opens.offered, opens.free⟩,
      fun _ => ⟨session, opens, opens.active_eq, opens.size_eq⟩⟩

/-- A program to print a number, to be prepared with an extreme timeout. -/
def extremeRequest : Request where
  source := "PRINT 1".toList
  options := .object [("timeoutSeconds", .int (10 ^ 200 * 10 ^ 200))]

def firstOffer : Circumstances where
  ids := ["debug_1_000000000"]
  now := "2024-01-02T03:04:05"
  stamp := "2024-01-02T03-04-05".toList

theorem extreme_request_waits : extremeRequest.WaitsTooLong :=
  ⟨{ timeout := 10 ^ 200 * 10 ^ 200 }, rfl, rfl, by decide, by decide +kernel⟩

theorem session_after_extreme_timeout : ∃ session,
    (empty.enhance extremeRequest firstOffer).2 = .error .delayTooLarge ∧
    OpensSession empty extremeRequest firstOffer session (empty.enhance extremeRequest firstOffer).1 ∧
    (empty.enhance extremeRequest firstOffer).1.active = [session] := by
  have failed : (empty.enhance extremeRequest firstOffer).2 = .error .delayTooLarge :=
    long_wait_fails extreme_request_waits ⟨"debug_1_000000000", by decide, by decide⟩
  obtain ⟨session, opens, active, -⟩ :=
    (store_after_failure empty extremeRequest firstOffer .delayTooLarge failed).2.2 rfl
  exact ⟨session, failed, opens, active⟩

/-- The failed enhancement is not without a trace. -/
theorem extreme_timeout_changes_store :
    (empty.enhance extremeRequest firstOffer).2 = .error .delayTooLarge ∧
    (empty.enhance extremeRequest firstOffer).1 ≠ empty ∧
    (empty.enhance extremeRequest firstOffer).1.size = 1 ∧ empty.size = 0 := by
  have failed : (empty.enhance extremeRequest firstOffer).2 = .error .delayTooLarge :=
    long_wait_fails extreme_request_waits ⟨"debug_1_000000000", by decide, by decide⟩
  rcases failed_enhancement_cases failed with ⟨early, -⟩ | ⟨-, -, session, opens⟩
  · exact absurd rfl early
  · exact ⟨failed, opens.store_changed, opens.size_eq, rfl⟩

end Store
end BasicBench.Sessions
