import BasicBench.Proofs.CatalogHistory

/-!
Which entry an alias leads to. An alias stands for the name of the last entry that was added with
it, and it goes on standing for that name when another entry takes the name over. So a look-up
answers with an entry of the asked name or alias, unless the alias has outlived its entry: then it
answers with the entry that came in its place.
-/

set_option autoImplicit false

namespace BasicBench.Keyword.Catalog

open Text

/-- An entry answers to its name and to its aliases, in any letter case. -/
def Answers (entry : Entry) (name : Text) : Prop :=
  keyOf entry.name = upper name ∨ upper name ∈ entry.aliases.map keyOf

instance (entry : Entry) (name : Text) : Decidable (Answers entry name) :=
  inferInstanceAs (Decidable (_ ∨ _))

/-- The last entry that was added with an alias of this key. -/
def lastBearer? (added : List Entry) (key : Text) : Option Entry :=
  added.reverse.find? fun entry => (entry.aliases.map keyOf).contains key

theorem last_bearer_concat (added : List Entry) (entry : Entry) (key : Text) :
    lastBearer? (added ++ [entry]) key =
      if key ∈ entry.aliases.map keyOf then some entry else lastBearer? added key := by
  rw [lastBearer?, find_reverse_concat, lastBearer?]
  exact if_congr List.contains_iff_mem rfl rfl

/-- No entry behind this one has the alias. -/
theorem last_bearer_some_iff (added : List Entry) (key : Text) (bearer : Entry) :
    lastBearer? added key = some bearer ↔ key ∈ bearer.aliases.map keyOf ∧
      ∃ before after, added = before ++ bearer :: after ∧
        ∀ later ∈ after, key ∉ later.aliases.map keyOf := by
  rw [lastBearer?, find_reverse_some_iff, List.contains_iff_mem]
  simp only [Bool.eq_false_iff, ne_eq, List.contains_iff_mem]

/-! Aliases in a catalogue. -/

theorem lookup_aliases_put (names : List String) (target key : Text) (table : List (Text × Text)) :
    (names.foldl (fun table other => put (keyOf other) target table) table).lookup key =
      if key ∈ names.map keyOf then some target else table.lookup key := by
  induction names generalizing table with
  | nil => rfl
  | cons name names induction =>
      rw [List.foldl_cons, induction, lookup_put, List.map_cons]
      by_cases later : key ∈ names.map keyOf
      · rw [if_pos later, if_pos (List.mem_cons_of_mem _ later)]
      · rw [if_neg later]
        by_cases first : key = keyOf name
        · rw [if_pos first, if_pos (first ▸ List.mem_cons_self)]
        · rw [if_neg first, if_neg fun member => (List.mem_cons.mp member).elim first later]

/-- An alias stands for the name of the last entry that was added with it. -/
theorem lookup_aliases (added : List Entry) (key : Text) : (ofEntries added).aliases.lookup key =
    (lastBearer? added key).map fun bearer => keyOf bearer.name := by
  induction added using List.reverseRecOn with
  | nil => rfl
  | append_singleton added entry induction =>
      rw [last_bearer_concat, ofEntries, List.foldl_append]
      change (entry.aliases.foldl _ (ofEntries added).aliases).lookup key = _
      rw [lookup_aliases_put, induction]
      split <;> rfl

theorem find_of_latest {added : List Entry} {name : Text} {entry : Entry}
    (stored : latest? added (upper name) = some entry) : (ofEntries added).find? name = some entry := by
  rw [find?, (records_of_entries added).latest, stored]

/-- Where no entry has the name, the last bearer of the alias leads to whatever has its name now. -/
theorem find_of_bearer {added : List Entry} {name : Text} (unnamed : latest? added (upper name) = none) :
    (ofEntries added).find? name =
      (lastBearer? added (upper name)).bind fun bearer => latest? added (keyOf bearer.name) := by
  have latest := (records_of_entries added).latest
  rw [find?, latest, unnamed, lookup_aliases]
  cases lastBearer? added (upper name) with
  | none => rfl
  | some bearer => exact latest (keyOf bearer.name)

theorem latest_none_iff (added : List Entry) (key : Text) :
    latest? added key = none ↔ ∀ entry ∈ added, keyOf entry.name ≠ key := by
  simp [latest?]

/-! Aliases that outlive their entries. -/

/-- The last entry with an alias has lost its place to a later one, and no entry has the alias for
its name. -/
def Outlives (added : List Entry) (key : Text) : Prop :=
  (∀ entry ∈ added, keyOf entry.name ≠ key) ∧
    ∃ before bearer after, added = before ++ bearer :: after ∧
      key ∈ bearer.aliases.map keyOf ∧ (∀ later ∈ after, key ∉ later.aliases.map keyOf) ∧
      ∃ later ∈ after, keyOf later.name = keyOf bearer.name

variable {added : List Entry} {name : Text} {entry : Entry}

theorem stranger_of_outlives (outlives : Outlives added (upper name)) :
    ∃ stranger, (ofEntries added).find? name = some stranger ∧ ¬ Answers stranger name := by
  obtain ⟨unnamed, before, bearer, after, split, bears, none, later, member, same⟩ := outlives
  have last := (last_bearer_some_iff added _ bearer).mpr ⟨bears, before, after, split, none⟩
  have found : (ofEntries added).find? name = latest? added (keyOf bearer.name) := by
    rw [find_of_bearer ((latest_none_iff added _).mpr unnamed), last]
    rfl
  -- The entry that now has the bearer's name stands behind the bearer.
  have replaced : ∃ stranger ∈ after, latest? added (keyOf bearer.name) = some stranger := by
    rw [split, latest?, List.reverse_append, List.reverse_cons, List.append_assoc, List.find?_append]
    have some_later : (after.reverse.find? fun entry => keyOf entry.name == keyOf bearer.name).isSome :=
      List.find?_isSome.mpr ⟨later, List.mem_reverse.mpr member, beq_iff_eq.mpr same⟩
    obtain ⟨stranger, first⟩ := Option.isSome_iff_exists.mp some_later
    exact ⟨stranger, List.mem_reverse.mp (List.mem_of_find?_eq_some first), by rw [first]; rfl⟩
  obtain ⟨stranger, behind, stored⟩ := replaced
  refine ⟨stranger, found.trans stored, ?_⟩
  rintro (named | aliased)
  · exact unnamed stranger (split ▸ List.mem_append_right _ (List.mem_cons_of_mem _ behind)) named
  · exact none stranger behind aliased

theorem answers_of_not_outlives (current : ¬ Outlives added (upper name))
    (found : (ofEntries added).find? name = some entry) : Answers entry name := by
  cases named : latest? added (upper name) with
  | some stored =>
      rw [find_of_latest named] at found
      exact .inl (Option.some.inj found ▸ ((latest_some_iff ..).mp named).1.symm)
  | none =>
      rw [find_of_bearer named] at found
      obtain ⟨bearer, last, stored⟩ := Option.bind_eq_some_iff.mp found
      obtain ⟨bears, before, after, split, none⟩ := (last_bearer_some_iff ..).mp last
      have kept : ∀ later ∈ after, keyOf later.name ≠ keyOf bearer.name := fun later member same =>
        current ⟨(latest_none_iff ..).mp named, before, bearer, after, split, bears, none, later,
          member, same⟩
      have itself := (latest_some_iff added _ bearer).mpr ⟨rfl, before, after, split, kept⟩
      obtain rfl := Option.some.inj (stored.symm.trans itself)
      exact .inr bears

/-- An entry that is added again lists the aliases that it had before. -/
def KeepsAliases (added : List Entry) : Prop :=
  added.Pairwise fun earlier later => keyOf later.name = keyOf earlier.name →
    ∀ key ∈ earlier.aliases.map keyOf, key ∈ later.aliases.map keyOf

theorem not_outlives_of_keeps (keeps : KeepsAliases added) (key : Text) : ¬ Outlives added key := by
  rintro ⟨-, before, bearer, after, rfl, bears, none, later, member, same⟩
  have behind := (List.pairwise_append.mp keeps).2.1
  exact none later member ((List.pairwise_cons.mp behind).1 later member same key bears)

/-- Every answer to a name is an entry of this name or alias exactly when the name is no alias that
has outlived its entry; and none does while entries that are added again keep their aliases. -/
theorem answers_iff_current (added : List Entry) :
    (∀ name, (∀ entry, (ofEntries added).find? name = some entry → Answers entry name) ↔
      ¬ Outlives added (upper name)) ∧
    (KeepsAliases added →
      ∀ name entry, (ofEntries added).find? name = some entry → Answers entry name) := by
  have current (name : Text) :
      (∀ entry, (ofEntries added).find? name = some entry → Answers entry name) ↔
        ¬ Outlives added (upper name) := by
    constructor
    · intro sound outlives
      obtain ⟨stranger, found, stranger_not⟩ := stranger_of_outlives outlives
      exact stranger_not (sound stranger found)
    · exact fun current _ found => answers_of_not_outlives current found
  exact ⟨current, fun keeps name => (current name).mpr (not_outlives_of_keeps keeps _)⟩

/-- A keyword with an alias, and the same keyword in capitals with the alias and one more. -/
def printWidened : List Entry := [
  { name := "Print", kind := .statement, category := "console", description := "Writes text.",
    aliases := ["?"] },
  { name := "PRINT", kind := .statement, category := "console", description := "Writes a line.",
    aliases := ["WriteLine", "?"] }]

/-- The alias of both leads to the second, which still has it. -/
theorem kept_alias_answers :
    KeepsAliases printWidened ∧
    ∃ entry, (ofEntries printWidened).find? "?".toList = some entry ∧
      entry.description = "Writes a line." ∧ Answers entry "?".toList := by
  have keeps : KeepsAliases printWidened := by unfold KeepsAliases; decide
  refine ⟨keeps, _, rfl, rfl, ?_⟩
  exact (answers_iff_current printWidened).2 keeps "?".toList _ rfl

/-- The second entry comes without the alias, and the alias leads to it none the less. -/
theorem alias_of_replaced_stays :
    ∃ entry, (ofEntries printTwice).find? "?".toList = some entry ∧ ¬ Answers entry "?".toList :=
  ⟨_, rfl, by decide⟩

end BasicBench.Keyword.Catalog
