import BasicBench.Instrument.Transform
import BasicBench.Sessions.Store

/-!
Preparing a program for a run without a person: its issues are found, a session is opened with
their remedies, and the program is instrumented. The session is opened before the program is
instrumented, so it is there even when the instrumentation fails; options that cannot be read
open none.
-/

set_option autoImplicit false

namespace BasicBench.Sessions

open Instrument Text

/-- What a session is opened with. -/
structure Request where
  source : Text
  options : Json := .null
  projectPath : Option String := none

/-- Ids to choose from and the time, in the form of records and in the form of file names. -/
structure Circumstances where
  ids : List String
  now : String
  stamp : Text

inductive EnhanceFault where
  | badOptions (problems : List Json.Problem)
  | noFreeId
  | delayTooLarge
  deriving DecidableEq, Repr

structure Summary where
  linesBefore : Nat
  linesAfter : Nat
  issuesDetected : Nat
  solutionsApplied : Nat
  deriving DecidableEq, Repr

structure Enhancement where
  session : Session
  instrumented : Instrumented
  summary : Summary

namespace Store

/-- Opens a session for a program. -/
def openSession (store : Store) (request : Request) (circumstances : Circumstances) :
    Except EnhanceFault (Session × Store) :=
  match Options.read request.options with
  | .wrong problems => .error (.badOptions problems)
  | .ok options =>
      let mode := Mode.detect request.source
      let found := issues mode request.source
      let created := store.create? (fun id => {
          id, source := request.source, projectPath := request.projectPath, options, mode,
          issues := found, remedies := remedies found, startedAt := circumstances.now,
          lastActivity := circumstances.now }) (fun _ => rfl) circumstances.ids
      match created with
      | some opened => .ok opened
      | none => .error .noFreeId

/-- The remedies whose feature was built into the program. -/
def applied (session : Session) (instrumented : Instrumented) : List Remedy :=
  session.remedies.filter fun remedy => instrumented.features.contains remedy.advice.feature

/-- Opens a session for a program and instruments it. The store that comes out has the session
also when the instrumentation fails. -/
def enhance (store : Store) (request : Request) (circumstances : Circumstances) :
    Store × Except EnhanceFault Enhancement :=
  match store.openSession request circumstances with
  | .error fault => (store, .error fault)
  | .ok (session, opened) =>
      match instrument? session.options session.mode circumstances.stamp request.source with
      | none => (opened, .error .delayTooLarge)
      | some instrumented =>
          let summary : Summary := {
            linesBefore := (splitLines request.source).length
            linesAfter := (splitLines instrumented.program).length
            issuesDetected := session.issues.length
            solutionsApplied := (applied session instrumented).length }
          ((opened.touch session.id circumstances.now).2,
            .ok ⟨session, instrumented, summary⟩)

end Store
end BasicBench.Sessions
