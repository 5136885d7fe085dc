import BasicBench.Instrument.Options
import BasicBench.Instrument.Remedy

/-!
Sessions, one for each program that was prepared. The store keeps them in the order of their
creation and never forgets one: closing a session only marks it. No two sessions have the same
id, which is part of the type; a new session takes the first free one of the ids offered.
-/

set_option autoImplicit false

namespace BasicBench.Sessions

open Instrument

inductive Status where
  | active | completed
  deriving DecidableEq, Repr

def Status.label : Status → String
  | .active => "active"
  | .completed => "completed"

/-- The digits and the small letters. -/
def idDigit (value : Fin 36) : Char :=
  if value.val < 10 then Char.ofNat (48 + value.val) else Char.ofNat (87 + value.val)

/-- A session id: the time of its creation in milliseconds, and a suffix that tells ids of the
same time apart. -/
def idAt (milliseconds : Nat) (suffix : List (Fin 36)) : String :=
  "debug_" ++ toString milliseconds ++ "_" ++ String.ofList (suffix.map idDigit)

structure Session where
  id : String
  source : Text
  projectPath : Option String
  options : Options
  mode : Mode
  issues : List Issue
  remedies : List Remedy
  status : Status := .active
  startedAt : String
  lastActivity : String
  deriving DecidableEq, Repr

structure Store where
  sessions : List Session := []
  distinct : (sessions.map (·.id)).Nodup := by decide

namespace Store

def empty : Store := {}

def size (store : Store) : Nat := store.sessions.length

def ids (store : Store) : List String := store.sessions.map (·.id)

def find? (store : Store) (id : String) : Option Session :=
  store.sessions.find? (·.id == id)

def active (store : Store) : List Session :=
  store.sessions.filter (·.status = .active)

/-- Appends a session whose id is free. -/
def append (store : Store) (session : Session) (free : session.id ∉ store.ids) : Store where
  sessions := store.sessions ++ [session]
  distinct := by
    rw [List.map_append, List.nodup_append]
    refine ⟨store.distinct, by simp, ?_⟩
    intro id member other last same
    simp only [List.map_cons, List.map_nil, List.mem_singleton] at last
    subst last same
    exact free member

/-- Adds a session under the first of the ids that is free; nothing when all are taken. -/
def create? (store : Store) (build : String → Session) (named : ∀ id, (build id).id = id) :
    List String → Option (Session × Store)
  | [] => none
  | id :: others =>
      if free : id ∈ store.ids then create? store build named others
      else some (build id, store.append (build id) (by rw [named]; exact free))

/-- Changes the session with an id by a change that keeps ids. -/
def update (store : Store) (id : String) (change : Session → Session)
    (keeps : ∀ session, (change session).id = session.id) : Store where
  sessions := store.sessions.map fun session => if session.id = id then change session else session
  distinct := by
    have same : (store.sessions.map fun session =>
        if session.id = id then change session else session).map (·.id) =
        store.sessions.map (·.id) := by
      rw [List.map_map]
      apply List.map_congr_left
      intro session _
      simp only [Function.comp_apply]
      split
      · exact keeps session
      · rfl
    rw [same]
    exact store.distinct

def has (store : Store) (id : String) : Bool := (store.find? id).isSome

/-- Notes that a session was used. The answer says whether there is such a session. -/
def touch (store : Store) (id now : String) : Bool × Store :=
  (store.has id, store.update id (fun session => { session with lastActivity := now })
    fun _ => rfl)

/-- Marks a session as completed. The answer says whether there is such a session. -/
def close (store : Store) (id now : String) : Bool × Store :=
  (store.has id, store.update id
    (fun session => { session with status := .completed, lastActivity := now }) fun _ => rfl)

end Store
end BasicBench.Sessions
