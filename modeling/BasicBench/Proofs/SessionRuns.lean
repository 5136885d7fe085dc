import BasicBench.Proofs.StoreOperations
import Mathlib.Data.List.Induction

/-!
Sessions over whole runs. Whatever callers ask of a store comes one after the other, in some order,
and is written down as a history of operations and answers. The store is told by its history: it
holds what was opened, in that order and as it was opened, and what was closed is completed. So
nothing is forgotten, changed or opened again, and every answer says what the history says.
-/

set_option autoImplicit false

namespace BasicBench.Sessions

open Instrument

/-- What a session is opened with, but for its id. -/
structure SessionStart where
  source : Text
  projectPath : Option String
  options : Options
  mode : Mode
  issues : List Issue
  remedies : List Remedy
  now : String

def SessionStart.session (start : SessionStart) (id : String) : Session where
  id := id
  source := start.source
  projectPath := start.projectPath
  options := start.options
  mode := start.mode
  issues := start.issues
  remedies := start.remedies
  startedAt := start.now
  lastActivity := start.now

/-- What callers ask of a store. A session is opened with a stream of ids to choose from. -/
inductive Operation where
  | create (start : SessionStart) (candidates : Nat → String)
  | find (id : String)
  | active
  | touch (id now : String)
  | close (id now : String)
  | size

inductive Answer where
  | opened (session : Session)
  | found (session : Option Session)
  | listed (sessions : List Session)
  | known (isKnown : Bool)
  | count (number : Nat)

/-- An operation of some caller, with its answer. -/
structure Event where
  operation : Operation
  answer : Answer

/-- One operation on a store. Ids are drawn until one is free, however many draws that takes. -/
inductive Performs (store : Store) : Operation → Answer → Store → Prop
  | create (start : SessionStart) (candidates : Nat → String) (draws : Nat) (session : Session)
      (opened : Store) (created : store.create? start.session (fun _ => rfl)
        ((List.range draws).map candidates) = some (session, opened)) :
      Performs store (.create start candidates) (.opened session) opened
  | find (id : String) : Performs store (.find id) (.found (store.find? id)) store
  | active : Performs store .active (.listed store.active) store
  | touch (id now : String) :
      Performs store (.touch id now) (.known (store.touch id now).1) (store.touch id now).2
  | close (id now : String) :
      Performs store (.close id now) (.known (store.close id now).1) (store.close id now).2
  | size : Performs store .size (.count store.size) store

/-- The operations of all callers in the order in which the store carries them out. -/
inductive Replay : List Event → Store → Prop
  | start : Replay [] .empty
  | step {history : List Event} {store next : Store} {operation : Operation} {answer : Answer}
      (earlier : Replay history store) (performed : Performs store operation answer next) :
      Replay (history ++ [⟨operation, answer⟩]) next

/-! What a history says. -/

def Event.opened? (event : Event) : Option Session :=
  match event.answer with
  | .opened session => some session
  | _ => none

def Event.isCreate (event : Event) : Bool :=
  match event.operation with
  | .create _ _ => true
  | _ => false

/-- Whether the event closes the session with an id. -/
def Event.closes (id : String) (event : Event) : Bool :=
  match event.operation, event.answer with
  | .close other _, .known true => other == id
  | _, _ => false

/-- The sessions that were opened, as they were then. -/
def opened (history : List Event) : List Session := history.filterMap Event.opened?

def openedIds (history : List Event) : List String := (opened history).map (·.id)

def isClosed (history : List Event) (id : String) : Bool := history.any (Event.closes id)

/-- A session as it was when it was opened. -/
def Session.asOpened (session : Session) : Session :=
  { session with status := .active, lastActivity := session.startedAt }

/-- A store that is what a history says. -/
structure TellsHistory (history : List Event) (store : Store) : Prop where
  distinct : store.ids.Nodup
  keyed : ∀ id session, store.find? id = some session ↔ session ∈ store.sessions ∧ session.id = id
  kept : store.sessions.map Session.asOpened = opened history
  counted : store.size = history.countP Event.isCreate
  completed : ∀ session ∈ store.sessions,
    (session.status = .completed ↔ isClosed history session.id = true)
  known : ∀ id, isClosed history id = true → id ∈ openedIds history
  active : store.active.map Session.asOpened =
    (opened history).filter fun session => !isClosed history session.id

/-- An answer that is what the history before it says. -/
def Truthful (history : List Event) (event : Event) : Prop :=
  match event.operation, event.answer with
  | .create start candidates, .opened session =>
      ∃ draw, session = start.session (candidates draw) ∧ candidates draw ∉ openedIds history ∧
        ∀ earlier < draw, candidates earlier ∈ openedIds history
  | .find id, .found session =>
      session.map Session.asOpened = (opened history).find? (·.id == id) ∧
        ∀ found ∈ session, (found.status = .completed ↔ isClosed history id = true)
  | .active, .listed sessions => sessions.map Session.asOpened =
      (opened history).filter fun session => !isClosed history session.id
  | .touch id _, .known isKnown | .close id _, .known isKnown =>
      isKnown = true ↔ id ∈ openedIds history
  | .size, .count number => number = history.countP Event.isCreate
  | _, _ => False

/-- An operation that finds what it needs: a session is opened if a free id comes. -/
def Operation.Possible (history : List Event) : Operation → Prop
  | .create _ candidates => ∃ draw, candidates draw ∉ openedIds history
  | _ => True

/-- What one store leaves of another: every session is still there, in its place and as it was
opened, and a completed one is not active again. -/
structure Lasts (before after : Store) : Prop where
  places : ∃ later, after.sessions.map Session.asOpened =
    before.sessions.map Session.asOpened ++ later
  completed : ∀ session ∈ before.sessions, ∀ other ∈ after.sessions, other.id = session.id →
    session.status = .completed → other.status = .completed

namespace Store

/-- A change that leaves sessions as they were opened leaves the store so. -/
theorem update_as_opened (store : Store) (id : String) (change : Session → Session)
    (keeps : ∀ session, (change session).id = session.id)
    (leaves : ∀ session, (change session).asOpened = session.asOpened) :
    (store.update id change keeps).sessions.map Session.asOpened =
      store.sessions.map Session.asOpened := by
  rw [update, List.map_map]
  apply List.map_congr_left
  intro session _
  rw [Function.comp_apply]
  split
  · exact leaves session
  · rfl

theorem touch_as_opened (store : Store) (id now : String) :
    (store.touch id now).2.sessions.map Session.asOpened =
      store.sessions.map Session.asOpened := by
  refine update_as_opened store id _ ?_ ?_ <;> exact fun _ => rfl

theorem close_as_opened (store : Store) (id now : String) :
    (store.close id now).2.sessions.map Session.asOpened =
      store.sessions.map Session.asOpened := by
  refine update_as_opened store id _ ?_ ?_ <;> exact fun _ => rfl

end Store

section Histories

variable {history : List Event} {store next : Store} {operation : Operation} {answer : Answer}

@[simp] theorem opened_append (earlier later : List Event) :
    opened (earlier ++ later) = opened earlier ++ opened later := List.filterMap_append

@[simp] theorem isClosed_append (earlier later : List Event) (id : String) :
    isClosed (earlier ++ later) id = (isClosed earlier id || isClosed later id) := List.any_append

@[simp] theorem isClosed_single (event : Event) (id : String) :
    isClosed [event] id = event.closes id := by simp [isClosed]

@[simp] theorem Session.asOpened_id (session : Session) : session.asOpened.id = session.id := rfl

/-- A store tells a history once it holds what was opened and completes what was closed. -/
theorem TellsHistory.of_sessions (kept : store.sessions.map Session.asOpened = opened history)
    (counted : store.size = history.countP Event.isCreate)
    (completed : ∀ session ∈ store.sessions,
      (session.status = .completed ↔ isClosed history session.id = true))
    (known : ∀ id, isClosed history id = true → id ∈ openedIds history) :
    TellsHistory history store where
  distinct := store.distinct
  keyed := store.find_some_iff
  kept := kept
  counted := counted
  completed := completed
  known := known
  active := by
    rw [← kept, List.filter_map, Store.active]
    congr 1
    apply List.filter_congr
    intro session member
    have closed := completed session member
    cases status : session.status <;> simp_all

theorem TellsHistory.ids_eq (tells : TellsHistory history store) : store.ids = openedIds history := by
  rw [openedIds, ← tells.kept, List.map_map]
  rfl

/-- An operation that opens and closes nothing, and leaves the sessions but for their last use. -/
theorem TellsHistory.of_quiet (tells : TellsHistory history store)
    (opens : Event.opened? ⟨operation, answer⟩ = none)
    (creates : Event.isCreate ⟨operation, answer⟩ = false)
    (closes : ∀ id, Event.closes id ⟨operation, answer⟩ = false)
    (same : next.sessions.map Session.asOpened = store.sessions.map Session.asOpened)
    (status : ∀ session ∈ next.sessions, ∃ other ∈ store.sessions,
      other.id = session.id ∧ other.status = session.status) :
    TellsHistory (history ++ [⟨operation, answer⟩]) next := by
  have still : opened (history ++ [⟨operation, answer⟩]) = opened history := by
    simp [opened, opens]
  have open' : ∀ id, isClosed (history ++ [⟨operation, answer⟩]) id = isClosed history id := by
    intro id
    simp [closes]
  apply TellsHistory.of_sessions
  · rw [same, tells.kept, still]
  · have size : next.size = store.size := by
      simpa [Store.size] using congrArg List.length same
    rw [size, tells.counted, List.countP_append]
    simp [creates]
  · intro session member
    rcases status session member with ⟨other, held, id, equal⟩
    rw [open', ← id, ← equal]
    exact tells.completed other held
  · intro id closed
    rw [openedIds, still]
    exact tells.known id (open' id ▸ closed)

theorem tells_create {start : SessionStart} {candidates : Nat → String} {id : String}
    (tells : TellsHistory history store) (free : id ∉ store.ids)
    (behind : next.sessions = store.sessions ++ [start.session id]) :
    TellsHistory (history ++ [⟨.create start candidates, .opened (start.session id)⟩]) next := by
  have never : isClosed history id = false := by
    rw [← Bool.not_eq_true]
    intro closed
    exact free (tells.ids_eq ▸ tells.known id closed)
  have closes : ∀ other, Event.closes other
      ⟨.create start candidates, .opened (start.session id)⟩ = false := fun _ => rfl
  apply TellsHistory.of_sessions
  · rw [behind, List.map_append, tells.kept, opened_append]
    rfl
  · rw [Store.size, behind, List.length_append, List.countP_append, ← tells.counted]
    rfl
  · intro session member
    rw [behind, List.mem_append, List.mem_singleton] at member
    rw [isClosed_append, isClosed_single, closes, Bool.or_false]
    cases member with
    | inl old => exact tells.completed session old
    | inr new =>
        rw [new, show (start.session id).id = id from rfl, never]
        simp [SessionStart.session]
  · intro other closed
    rw [isClosed_append, isClosed_single, closes, Bool.or_false] at closed
    rw [openedIds, opened_append, List.map_append]
    exact List.mem_append_left _ (tells.known other closed)

theorem tells_close (tells : TellsHistory history store) (id now : String) :
    TellsHistory (history ++ [⟨.close id now, .known (store.close id now).1⟩])
      (store.close id now).2 := by
  have still : opened (history ++ [⟨.close id now, .known (store.close id now).1⟩]) =
      opened history := by simp [opened, Event.opened?]
  have same : (store.close id now).2.sessions.map Session.asOpened = opened history :=
    (store.close_as_opened id now).trans tells.kept
  have closes : ∀ other, Event.closes other ⟨.close id now, .known (store.close id now).1⟩ =
      (store.has id && id == other) := by
    intro other
    rw [Store.close]
    cases store.has id <;> rfl
  apply TellsHistory.of_sessions
  · rw [same, still]
  · have size : (store.close id now).2.size = store.size := List.length_map _
    rw [size, tells.counted, List.countP_append]
    rfl
  · intro session member
    rw [isClosed_append, isClosed_single, closes, Bool.or_eq_true, Bool.and_eq_true, beq_iff_eq]
    rcases List.mem_map.mp member with ⟨old, held, rfl⟩
    have before := tells.completed old held
    by_cases named : old.id = id
    · have has : store.has id = true := by
        rw [Store.has_iff, ← named]
        exact List.mem_map_of_mem held
      simp [named, has]
    · have other : ¬id = old.id := Ne.symm named
      simp [named, other, before]
  · intro other closed
    rw [isClosed_append, isClosed_single, closes, Bool.or_eq_true, Bool.and_eq_true,
      beq_iff_eq] at closed
    rw [openedIds, still]
    cases closed with
    | inl before => exact tells.known other before
    | inr now =>
        have held := (store.has_iff id).mp now.1
        rw [tells.ids_eq, now.2] at held
        exact held

/-- One operation: the store that tells a history tells it with the operation as well. -/
theorem tells_step (tells : TellsHistory history store)
    (performed : Performs store operation answer next) :
    TellsHistory (history ++ [⟨operation, answer⟩]) next := by
  have itself : ∀ session ∈ store.sessions, ∃ other ∈ store.sessions,
      other.id = session.id ∧ other.status = session.status :=
    fun session held => ⟨session, held, rfl, rfl⟩
  cases performed with
  | create start candidates draws session opened created =>
      rcases Store.create_some created with ⟨id, -, free, rfl, behind⟩
      exact tells_create tells free behind
  | find id => exact tells.of_quiet rfl rfl (fun _ => rfl) rfl itself
  | active => exact tells.of_quiet rfl rfl (fun _ => rfl) rfl itself
  | size => exact tells.of_quiet rfl rfl (fun _ => rfl) rfl itself
  | close id now => exact tells_close tells id now
  | touch id now =>
      apply tells.of_quiet rfl rfl (fun _ => rfl) (store.touch_as_opened id now)
      intro session member
      rcases List.mem_map.mp member with ⟨old, held, rfl⟩
      refine ⟨old, held, ?_⟩
      split <;> exact ⟨rfl, rfl⟩

/-- A store tells the whole history that led to it. -/
theorem tells_of_replay (replay : Replay history store) : TellsHistory history store := by
  induction replay with
  | start => exact .of_sessions rfl rfl (by simp [Store.empty]) (by simp [isClosed])
  | step _ performed earlier => exact tells_step earlier performed

theorem truthful_of_performs (tells : TellsHistory history store)
    (performed : Performs store operation answer next) : Truthful history ⟨operation, answer⟩ := by
  have known : ∀ id, store.has id = true ↔ id ∈ openedIds history := by
    intro id
    rw [Store.has_iff, tells.ids_eq]
  cases performed with
  | create start candidates draws session opened created =>
      have first := Store.create_first_draw created
      rw [tells.ids_eq] at first
      exact first
  | find id =>
      constructor
      · rw [← tells.kept, List.find?_map]
        rfl
      · intro session found
        have here := (store.find_some_iff id session).mp found
        rw [← here.2]
        exact tells.completed session here.1
  | active => exact tells.active
  | touch id now => exact known id
  | close id now => exact known id
  | size => exact tells.counted

/-- The history up to any moment leads to the store of that moment. -/
theorem replay_before {earlier later : List Event} (replay : Replay (earlier ++ later) store) :
    ∃ before, Replay earlier before := by
  induction later using List.reverseRecOn generalizing store with
  | nil => exact ⟨store, by simpa using replay⟩
  | append_singleton events event induction =>
      rw [← List.append_assoc] at replay
      generalize whole : earlier ++ events ++ [event] = history at replay
      cases replay with
      | start => simp at whole
      | step before performed =>
          rw [(List.append_inj' whole rfl).1] at induction
          exact induction before

/-- What a store recorded at some moment is what the store of any later moment has of it. -/
theorem lasts_of_tells {later : List Event} (before : TellsHistory history store)
    (after : TellsHistory (history ++ later) next) : Lasts store next where
  places := by
    rw [before.kept, after.kept, opened_append]
    exact ⟨opened later, rfl⟩
  completed := by
    intro session held other still same completed
    have closed := (before.completed session held).mp completed
    apply (after.completed other still).mpr
    rw [same, isClosed_append, closed, Bool.true_or]

theorem performs_of_possible (tells : TellsHistory history store)
    (possible : operation.Possible history) :
    ∃ answer next, Performs store operation answer next := by
  cases operation with
  | create start candidates =>
      rcases possible with ⟨draw, free⟩
      rw [← tells.ids_eq] at free
      rcases store.create_of_free_candidate start.session (fun _ => rfl) candidates draw free with
        ⟨session, opened, created⟩
      exact ⟨_, _, .create start candidates (draw + 1) session opened created⟩
  | find id => exact ⟨_, _, .find id⟩
  | active => exact ⟨_, _, .active⟩
  | touch id now => exact ⟨_, _, .touch id now⟩
  | close id now => exact ⟨_, _, .close id now⟩
  | size => exact ⟨_, _, .size⟩

/-- Whatever callers did in whatever order, the store is what the history says, every answer was
true when it was given, and every store on the way lasts: sessions keep their places and what they
were opened with, and stay completed. An id that was never given out is refused and changes
nothing, and every operation can be carried out, to open a session if a free id comes. -/
theorem store_tells_history (replay : Replay history store) :
    TellsHistory history store ∧
      (∀ earlier event later, history = earlier ++ event :: later → Truthful earlier event) ∧
      (∀ earlier later, history = earlier ++ later →
        ∃ before, Replay earlier before ∧ Lasts before store) ∧
      (∀ id now, id ∉ openedIds history →
        store.touch id now = (false, store) ∧ store.close id now = (false, store)) ∧
      ∀ operation : Operation, operation.Possible history →
        ∃ answer next, Performs store operation answer next := by
  have tells := tells_of_replay replay
  refine ⟨tells, ?truthful, ?lasting, ?refused, fun _ => performs_of_possible tells⟩
  case truthful =>
    intro earlier event later split
    rw [split, List.append_cons] at replay
    rcases replay_before replay with ⟨after, upTo⟩
    generalize moment : earlier ++ [event] = events at upTo
    cases upTo with
    | start => exact absurd moment (by simp)
    | step before performed =>
        have same := List.append_inj' moment rfl
        rw [same.1, List.singleton_inj.mp same.2]
        exact truthful_of_performs (tells_of_replay before) performed
  case lasting =>
    intro earlier later split
    rw [split] at replay
    rcases replay_before replay with ⟨before, upTo⟩
    exact ⟨before, upTo, lasts_of_tells (tells_of_replay upTo) (tells_of_replay replay)⟩
  case refused =>
    intro id now unknown
    rw [← tells.ids_eq] at unknown
    have refused : store.has id = false := by
      rw [← Bool.not_eq_true, Store.has_iff]
      exact unknown
    rw [Store.touch, Store.close, refused, Store.update_of_unknown unknown,
      Store.update_of_unknown unknown]
    exact ⟨rfl, rfl⟩

end Histories

def emptyStart : SessionStart := ⟨[], none, {}, .console, [], [], "1"⟩

/-- Two callers whose first id is the same, and a session that is closed before it is used. -/
def crossingRun : List Event := [
  ⟨.create emptyStart fun _ => "debug_1_a", .opened (emptyStart.session "debug_1_a")⟩,
  ⟨.create emptyStart fun draw => if draw = 0 then "debug_1_a" else "debug_1_b",
    .opened (emptyStart.session "debug_1_b")⟩,
  ⟨.close "debug_1_a" "2", .known true⟩,
  ⟨.touch "debug_1_a" "3", .known true⟩,
  ⟨.active, .listed [emptyStart.session "debug_1_b"]⟩]

theorem crossing_run_told : ∃ store, Replay crossingRun store ∧ TellsHistory crossingRun store ∧
    openedIds crossingRun = ["debug_1_a", "debug_1_b"] ∧ isClosed crossingRun "debug_1_a" = true ∧
    store.touch "debug_1_c" "4" = (false, store) := by
  have replay : ∃ store, Replay crossingRun store := by
    have first := Replay.step .start (.create emptyStart (fun _ => "debug_1_a") 1 _ _ rfl)
    have second := first.step (.create emptyStart
      (fun draw => if draw = 0 then "debug_1_a" else "debug_1_b") 2 _ _ rfl)
    have closed := second.step (.close "debug_1_a" "2")
    have touched := closed.step (.touch "debug_1_a" "3")
    exact ⟨_, touched.step .active⟩
  rcases replay with ⟨store, replay⟩
  have told := store_tells_history replay
  have refused := told.2.2.2.1 "debug_1_c" "4" (by decide)
  exact ⟨store, replay, told.1, rfl, by decide, refused.1⟩
end BasicBench.Sessions
