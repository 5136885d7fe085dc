import BasicBench.Sessions.Store

/-!
The operations of a session store. A new session gets the first id that is free, an id is known
exactly if a session has it, and an update of an unknown id changes nothing.
-/

set_option autoImplicit false

namespace BasicBench.Sessions
namespace Store

variable {store opened : Store} {session : Session}

theorem create_none_iff (build : String → Session) (named : ∀ id, (build id).id = id)
    (ids : List String) : store.create? build named ids = none ↔ ∀ id ∈ ids, id ∈ store.ids := by
  induction ids with
  | nil => simp [create?]
  | cons id others induction =>
      rw [create?, List.forall_mem_cons]
      by_cases taken : id ∈ store.ids
      · rw [dif_pos taken, induction, and_iff_right taken]
      · simp [taken]

/-- A new session stands behind the others, under the first id that was free. -/
theorem create_first_free {build : String → Session} {named : ∀ id, (build id).id = id}
    {ids : List String} (created : store.create? build named ids = some (session, opened)) :
    ∃ passed id others, ids = passed ++ id :: others ∧ (∀ other ∈ passed, other ∈ store.ids) ∧
      id ∉ store.ids ∧ session = build id ∧ opened.sessions = store.sessions ++ [session] := by
  induction ids with
  | nil => exact absurd created (by simp [create?])
  | cons id others induction =>
      rw [create?] at created
      split at created
      next taken =>
        rcases induction created with ⟨passed, free, behind, split, before, rest⟩
        refine ⟨id :: passed, free, behind, congrArg (id :: ·) split, ?_, rest⟩
        exact List.forall_mem_cons.mpr ⟨taken, before⟩
      next free =>
        have same := Prod.mk.inj (Option.some.inj created)
        exact ⟨[], id, others, rfl, by simp, free, same.1.symm, by rw [← same.2, ← same.1]; rfl⟩

/-- A session that is created has one of the ids offered. -/
theorem create_some {build : String → Session} {named : ∀ id, (build id).id = id}
    {ids : List String} (created : store.create? build named ids = some (session, opened)) :
    ∃ id ∈ ids, id ∉ store.ids ∧ session = build id ∧
      opened.sessions = store.sessions ++ [session] := by
  rcases create_first_free created with ⟨passed, id, others, rfl, -, rest⟩
  exact ⟨id, by simp, rest⟩

/-- Of a stream of ids a session gets the first that is free. -/
theorem create_first_draw {build : String → Session} {named : ∀ id, (build id).id = id}
    {candidates : Nat → String} {draws : Nat}
    (created : store.create? build named ((List.range draws).map candidates) =
      some (session, opened)) :
    ∃ draw, session = build (candidates draw) ∧ candidates draw ∉ store.ids ∧
      ∀ earlier < draw, candidates earlier ∈ store.ids := by
  rcases create_first_free created with ⟨passed, id, others, split, taken, free, same, -⟩
  have drawn : ∀ place (inside : place < (passed ++ id :: others).length),
      (passed ++ id :: others)[place] = candidates place := by
    intro place inside
    simp [← split]
  have last : candidates passed.length = id := by
    rw [← drawn passed.length (by simp)]
    simp
  refine ⟨passed.length, last ▸ same, last ▸ free, ?_⟩
  intro earlier before
  rw [← drawn earlier (by simp; omega), List.getElem_append_left before]
  exact taken _ (List.getElem_mem before)

/-- A stream of ids in which a free one comes lets a session be created. -/
theorem create_of_free_candidate (store : Store) (build : String → Session)
    (named : ∀ id, (build id).id = id) (candidates : Nat → String) (draw : Nat)
    (free : candidates draw ∉ store.ids) : ∃ session opened,
      store.create? build named ((List.range (draw + 1)).map candidates) = some (session, opened) := by
  cases created : store.create? build named ((List.range (draw + 1)).map candidates) with
  | none =>
      have taken := (create_none_iff build named _).mp created (candidates draw)
      exact absurd (taken (List.mem_map_of_mem (List.mem_range.mpr (by omega)))) free
  | some result => exact ⟨result.1, result.2, rfl⟩

theorem find_some_iff (store : Store) (id : String) (session : Session) :
    store.find? id = some session ↔ session ∈ store.sessions ∧ session.id = id := by
  constructor
  · intro found
    exact ⟨List.mem_of_find?_eq_some found, by simpa using List.find?_some found⟩
  · intro here
    have distinct := store.distinct
    rw [find?]
    generalize store.sessions = sessions at here distinct
    induction sessions with
    | nil => exact absurd here.1 List.not_mem_nil
    | cons first others induction =>
        rw [List.map_cons, List.nodup_cons] at distinct
        rcases here with ⟨member, named⟩
        rcases List.mem_cons.mp member with rfl | behind
        · simp [named]
        · have differs : first.id ≠ id := by
            intro same
            apply distinct.1
            rw [same, ← named]
            exact List.mem_map_of_mem behind
          simp only [List.find?_cons, beq_eq_false_iff_ne.mpr differs]
          exact induction ⟨behind, named⟩ distinct.2

theorem has_iff (store : Store) (id : String) : store.has id = true ↔ id ∈ store.ids := by
  rw [has, Option.isSome_iff_exists, ids, List.mem_map]
  exact exists_congr fun session => store.find_some_iff id session

/-- A change of a session that no store holds changes nothing. -/
theorem update_of_unknown {id : String} (unknown : id ∉ store.ids) (change : Session → Session)
    (keeps : ∀ session, (change session).id = session.id) : store.update id change keeps = store := by
  have same : store.sessions.map (fun session =>
      if session.id = id then change session else session) =
        store.sessions.map (fun session => session) := by
    apply List.map_congr_left
    intro session member
    have other : session.id ≠ id := by
      intro named
      exact unknown (named ▸ List.mem_map_of_mem member)
    exact if_neg other
  rw [List.map_id'] at same
  cases store
  simpa [update] using same

end Store
end BasicBench.Sessions
