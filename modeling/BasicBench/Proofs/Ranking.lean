import BasicBench.Proofs.CatalogHistory
import Mathlib.Data.List.Sort
import Mathlib.Data.String.Basic

/-!
The order of what a catalogue answers. All matches of a query stand in one strict order, by falling
relevance and by name where the relevance is the same, and a search gives the first of them. So
nothing that is answered depends on the order in which the entries were added.
-/

set_option autoImplicit false

namespace BasicBench.Keyword

open Text

/-! Relevance. -/

theorem misspelling_pos {query : Query} {name : Text} {relevance : Nat}
    (found : query.misspelling? name = some relevance) : 0 < relevance := by
  obtain ⟨tolerance, allowed, near⟩ := Option.bind_eq_some_iff.mp found
  -- Three edits are the most that a query allows.
  have few : tolerance ≤ 3 := by
    unfold Query.tolerance? at allowed
    split at allowed
    · exact (Option.some.inj allowed).symm.le
    · split at allowed
      · exact (Option.some.inj allowed).symm.le.trans (by decide)
      · cases allowed
  dsimp only at near
  split at near
  · next within =>
      have same := Option.some.inj near
      omega
  · cases near

theorem shared_pos {query : Query} {name : Text} {relevance : Nat}
    (found : query.shared? name = some relevance) : 0 < relevance := by
  unfold Query.shared? at found
  dsimp only at found
  split at found
  · cases found
  · split at found
    · exact Option.some.inj found ▸ by decide
    · have same := Option.some.inj found
      omega

/-- The rules by which a name is matched, in the order in which they are tried. -/
inductive Query.Scores (query : Query) (name : Text) (entry : Entry) : Nat → MatchKind → Prop
  | same (equal : name = query.lowered) : Scores query name entry 100 .exact
  | underscored (equal : dropUnderscore name = dropUnderscore query.lowered) :
      Scores query name entry 95 .exact
  | opening (starts : startsWith query.lowered name = true) : Scores query name entry 80 .opening
  | misspelt {relevance : Nat} (near : query.misspelling? name = some relevance) :
      Scores query name entry relevance .fuzzy
  | parts {relevance : Nat} (shared : query.shared? name = some relevance) :
      Scores query name entry relevance .contains
  | inName (inside : Text.contains query.lowered name = true) :
      Scores query name entry 60 .contains
  | inDescription
      (inside : Text.contains query.lowered (lower entry.description.toList) = true) :
      Scores query name entry 40 .contains
  | inRelated (inside : (entry.related.any fun other =>
        Text.contains query.lowered (lower other.toList)) = true) :
      Scores query name entry 20 .related

section Scores

variable {query : Query} {name : Text} {entry : Entry} {relevance : Nat} {kind : MatchKind}

theorem scores_of_some (found : query.score? name entry = some (relevance, kind)) :
    query.Scores name entry relevance kind := by
  unfold Query.score? at found
  split at found
  case isTrue equal => cases found; exact .same equal
  split at found
  case isTrue equal => cases found; exact .underscored equal
  split at found
  case isTrue starts => cases found; exact .opening starts
  split at found
  case h_1 near => cases found; exact .misspelt near
  split at found
  case h_1 shared => cases found; exact .parts shared
  split at found
  case isTrue inside => cases found; exact .inName inside
  split at found
  case isTrue inside => cases found; exact .inDescription inside
  split at found
  case isTrue inside => cases found; exact .inRelated inside
  cases found

theorem score_pos (found : query.score? name entry = some (relevance, kind)) : 0 < relevance := by
  cases scores_of_some found with
  | misspelt near => exact misspelling_pos near
  | parts shared => exact shared_pos shared
  | _ => decide

end Scores

/-! The order of names. -/

theorem sorted_by_name {Item : Type} (name : Item → String) (items : List Item) :
    (items.mergeSort fun a b => name a ≤ name b).Pairwise fun a b => name a ≤ name b := by
  have trans (a b c : Item) (first : decide (name a ≤ name b) = true)
      (second : decide (name b ≤ name c) = true) : decide (name a ≤ name c) = true := by
    rw [decide_eq_true_eq] at first second ⊢
    exact first.trans second
  have total (a b : Item) : (decide (name a ≤ name b) || decide (name b ≤ name a)) = true := by
    simpa using le_total (name a) (name b)
  simpa using List.pairwise_mergeSort trans total items

/-- Sorting by distinct names forgets the order in which the items stood. -/
theorem sort_eq_of_perm {Item : Type} (name : Item → String) {items others : List Item}
    (same : items.Perm others) (distinct : (items.map name).Nodup) :
    (items.mergeSort fun a b => name a ≤ name b) =
      others.mergeSort fun a b => name a ≤ name b := by
  have sorted := List.mergeSort_perm items fun a b => name a ≤ name b
  have either := List.mergeSort_perm others fun a b => name a ≤ name b
  refine List.Perm.eq_of_pairwise (fun a b here there first second => ?_)
    (sorted_by_name name items) (sorted_by_name name others) (sorted.trans (same.trans either.symm))
  exact List.inj_on_of_nodup_map distinct (sorted.mem_iff.mp here)
    (same.mem_iff.mpr (either.mem_iff.mp there)) (first.antisymm second)

/-! The order of matches. -/

/-- Higher relevance, or the same relevance and a smaller name. -/
def Match.RanksBefore (a b : Match) : Prop :=
  b.relevance < a.relevance ∨ (a.relevance = b.relevance ∧ a.entry.name < b.entry.name)

namespace Match

variable {a b : Match}

theorem before_iff : a.before b = true ↔
    b.relevance < a.relevance ∨ (a.relevance = b.relevance ∧ a.entry.name ≤ b.entry.name) := by
  simp [before]

theorem before_trans (a b c : Match) (first : a.before b = true) (second : b.before c = true) :
    a.before c = true := by
  rw [before_iff] at first second ⊢
  rcases first with higher | ⟨same, smaller⟩ <;> rcases second with next | ⟨level, rest⟩
  · exact .inl (next.trans higher)
  · exact .inl (level ▸ higher)
  · exact .inl (same ▸ next)
  · exact .inr ⟨same.trans level, smaller.trans rest⟩

theorem before_total (a b : Match) : (a.before b || b.before a) = true := by
  rw [Bool.or_eq_true, before_iff, before_iff]
  rcases Nat.lt_trichotomy a.relevance b.relevance with less | same | more
  · exact .inr (.inl less)
  · exact (le_total a.entry.name b.entry.name).imp (.inr ⟨same, ·⟩) (.inr ⟨same.symm, ·⟩)
  · exact .inl (.inl more)

/-- To rank before a match is not to come after it in the order of the sort. -/
theorem ranks_before_iff : a.RanksBefore b ↔ ¬ b.before a = true := by
  rw [before_iff, RanksBefore]
  rcases Nat.lt_trichotomy a.relevance b.relevance with less | same | more
  · simp [less, less.ne, less.not_gt]
  · simp [same]
  · simp [more, more.ne', more.not_gt, more.ne]

theorem ranks_before_of_before (ordered : a.before b = true) (differs : a.entry.name ≠ b.entry.name) :
    a.RanksBefore b :=
  (before_iff.mp ordered).imp_right fun ⟨same, smaller⟩ => ⟨same, smaller.lt_of_ne differs⟩

instance : IsStrictOrder Match RanksBefore where
  irrefl a itself := ranks_before_iff.mp itself (by simpa using before_total a a)
  trans a b c first second := by
    rw [ranks_before_iff] at first second ⊢
    have after := before_total a b
    rw [Bool.or_eq_true] at after
    exact fun back => second (before_trans c a b back (after.resolve_right first))

end Match

/-! Names in a catalogue. -/

namespace Catalog

section Names

variable {added : List Entry} {catalog : Catalog} (records : Records added catalog)

include records

theorem names_distinct : (catalog.toList.map (·.name)).Nodup := by
  have keys : (catalog.toList.map (·.name)).map keyOf = catalog.entries.map (·.1) := by
    rw [toList, List.map_map, List.map_map]
    exact List.map_congr_left fun pair member => (key_of_mem records member).symm
  exact List.Nodup.of_map keyOf (keys ▸ records.distinct)

theorem mem_scored_of_records {query : Query} {hit : Match} :
    hit ∈ catalog.scored query ↔ hit.entry ∈ catalog.toList ∧
      query.score? (lower (keyOf hit.entry.name)) hit.entry = some (hit.relevance, hit.kind) := by
  rw [mem_scored_iff]
  constructor
  · rintro ⟨key, member, found⟩
    rw [key_of_mem records member] at found
    exact ⟨List.mem_map_of_mem member, found⟩
  · rintro ⟨member, found⟩
    obtain ⟨⟨key, entry⟩, held, rfl⟩ := List.mem_map.mp member
    exact ⟨key, held, key_of_mem records held ▸ found⟩

theorem scored_names_differ (query : Query) :
    (catalog.scored query).Pairwise fun a b => a.entry.name ≠ b.entry.name := by
  have stored : catalog.entries.Pairwise fun a b => a.2.name ≠ b.2.name := by
    simpa [toList, List.Nodup, List.pairwise_map] using names_distinct records
  refine List.Pairwise.filterMap _ (fun first second differs a left b right => ?_) stored
  obtain ⟨_, -, rfl⟩ := Option.map_eq_some_iff.mp left
  obtain ⟨_, -, rfl⟩ := Option.map_eq_some_iff.mp right
  exact differs

end Names

/-! Rankings. -/

/-- All matches of a query in a catalogue, from the best to the worst. -/
structure Ranks (catalog : Catalog) (query : Text) (ranking : List Match) : Prop where
  ordered : ranking.Pairwise Match.RanksBefore
  /-- No entry is matched twice. -/
  once : (ranking.map (·.entry)).Nodup
  all : ∀ hit, hit ∈ ranking ↔ hit.entry ∈ catalog.toList ∧ 0 < hit.relevance ∧
    (Query.ofText query).score? (lower (keyOf hit.entry.name)) hit.entry =
      some (hit.relevance, hit.kind)

theorem ranks_of_records {added : List Entry} {catalog : Catalog} (records : Records added catalog)
    (query : Text) :
    catalog.Ranks query ((catalog.scored (.ofText query)).mergeSort Match.before) := by
  have names : ((catalog.scored (.ofText query)).mergeSort Match.before).Pairwise
      fun a b => a.entry.name ≠ b.entry.name :=
    (scored_names_differ records (.ofText query)).perm (List.mergeSort_perm ..).symm Ne.symm
  have sorted := List.pairwise_mergeSort Match.before_trans Match.before_total
    (catalog.scored (.ofText query))
  constructor
  case ordered =>
    exact sorted.imp₂ (fun _ _ ordered differs => Match.ranks_before_of_before ordered differs) names
  case once =>
    rw [List.Nodup, List.pairwise_map]
    exact names.imp fun differs same => differs (congrArg Entry.name same)
  case all =>
    intro hit
    rw [List.mem_mergeSort, mem_scored_of_records records]
    exact and_congr_right fun _ => ⟨fun found => ⟨score_pos found, found⟩, And.right⟩

/-- The ranking of a query depends on nothing but the stored entries. -/
theorem ranks_unique {catalog other : Catalog} {query : Text} {ranking ranked : List Match}
    (same : ∀ entry, entry ∈ catalog.toList ↔ entry ∈ other.toList)
    (first : catalog.Ranks query ranking) (second : other.Ranks query ranked) :
    ranking = ranked :=
  first.ordered.eq_of_mem_iff second.ordered fun hit => by rw [first.all, second.all, same]

/-! Entries added in another order. -/

section Reordered

variable {added other : List Entry}

theorem latest_iff_mem (distinct : (added.map fun entry => keyOf entry.name).Nodup) (key : Text)
    (entry : Entry) : latest? added key = some entry ↔ key = keyOf entry.name ∧ entry ∈ added := by
  rw [latest_some_iff]
  refine and_congr_right fun _ => ⟨?_, fun member => ?_⟩
  · rintro ⟨before, after, rfl, -⟩
    simp
  · obtain ⟨before, after, split⟩ := List.append_of_mem member
    refine ⟨before, after, split, fun later behind same => ?_⟩
    rw [split, List.map_append, List.map_cons, List.nodup_append, List.nodup_cons] at distinct
    exact distinct.2.1.1 (List.mem_map.mpr ⟨later, behind, same⟩)

theorem entries_perm (same : added.Perm other)
    (distinct : (added.map fun entry => keyOf entry.name).Nodup) :
    (ofEntries added).entries.Perm (ofEntries other).entries := by
  have keys := same.map fun entry : Entry => keyOf entry.name
  have others := keys.nodup_iff.mp distinct
  have once := List.Nodup.of_map _ (records_of_entries added).distinct
  have once_too := List.Nodup.of_map _ (records_of_entries other).distinct
  rw [List.perm_ext_iff_of_nodup once once_too]
  rintro ⟨key, entry⟩
  rw [mem_entries_iff (records_of_entries added), mem_entries_iff (records_of_entries other),
    latest_iff_mem distinct, latest_iff_mem others, same.mem_iff]

/-- What a catalogue answers to each question. -/
structure SameAnswers (catalog other : Catalog) : Prop where
  search : ∀ query limit, catalog.search query limit = other.search query limit
  complete : ∀ opening limit, catalog.complete opening limit = other.complete opening limit
  ofKind : ∀ kind, catalog.ofKind kind = other.ofKind kind
  ofDialect : ∀ dialect, catalog.ofDialect dialect = other.ofDialect dialect
  deprecated : catalog.deprecated = other.deprecated

theorem same_answers_of_perm (same : added.Perm other)
    (distinct : (added.map fun entry => keyOf entry.name).Nodup) :
    (ofEntries added).SameAnswers (ofEntries other) := by
  have stored := entries_perm same distinct
  have listed : (ofEntries added).toList.Perm (ofEntries other).toList := stored.map _
  have names := names_distinct (records_of_entries added)
  have stored_names : ((ofEntries added).entries.map (·.2.name)).Nodup := by
    rwa [toList, List.map_map] at names
  have selected (keep : Entry → Bool) : byName ((ofEntries added).toList.filter keep) =
      byName ((ofEntries other).toList.filter keep) :=
    sort_eq_of_perm Entry.name (listed.filter keep) (names.sublist (List.filter_sublist.map _))
  constructor
  case search =>
    intro query limit
    rw [search, search, ranks_unique (fun _ => listed.mem_iff)
      (ranks_of_records (records_of_entries added) query)
      (ranks_of_records (records_of_entries other) query)]
  case complete =>
    intro opening limit
    let starts (pair : Text × Entry) : Bool := startsWith (upper opening) pair.1
    have starting := (stored.filter starts).map (·.2.name)
    have once : (((ofEntries added).entries.filter starts).map (·.2.name)).Nodup :=
      stored_names.sublist (List.filter_sublist.map _)
    exact congrArg (cut limit) (sort_eq_of_perm (fun name => name) starting (by rwa [List.map_id']))
  case ofKind => exact fun kind => selected fun entry => entry.kind.label == kind
  case ofDialect => exact fun dialect => selected fun entry => entry.dialect.label == dialect
  case deprecated => exact selected (·.deprecated)

end Reordered

/-- A search gives the first of all matches, ranked by relevance and by name; and catalogues to
which the same keywords were added in different orders answer alike. -/
theorem search_gives_best_matches (added : List Entry) :
    (∀ query : Text, query ≠ [] → ∃ ranking, (ofEntries added).Ranks query ranking ∧
      ∀ limit : Nat, (ofEntries added).search query limit = ranking.take limit) ∧
    ∀ other, added.Perm other → (added.map fun entry => keyOf entry.name).Nodup →
      (ofEntries added).SameAnswers (ofEntries other) := by
  refine ⟨fun query asked => ⟨_, ranks_of_records (records_of_entries added) query, fun limit => ?_⟩,
    fun other same distinct => same_answers_of_perm same distinct⟩
  rw [search, if_neg (by simpa using asked)]
  rfl

def fileLength : Entry :=
  { name := "LOF", kind := .function, category := "files", description := "The length of a file." }

def cursorPlace : Entry :=
  { name := "LOCATE", kind := .statement, category := "console", description := "Moves the cursor." }

/-- Both keywords begin with what is searched for, and so they come by name. -/
theorem same_answers_swapped :
    (((ofEntries [fileLength, cursorPlace]).search "LO".toList 10).map (·.entry.name) =
      ["LOCATE", "LOF"]) ∧
    [fileLength, cursorPlace].Perm [cursorPlace, fileLength] ∧
    ([fileLength, cursorPlace].map fun entry => keyOf entry.name).Nodup ∧
    (ofEntries [fileLength, cursorPlace]).SameAnswers (ofEntries [cursorPlace, fileLength]) := by
  obtain ⟨-, alike⟩ := search_gives_best_matches [fileLength, cursorPlace]
  have swapped : [fileLength, cursorPlace].Perm [cursorPlace, fileLength] := .swap ..
  have distinct : ([fileLength, cursorPlace].map fun entry => keyOf entry.name).Nodup := by decide
  -- The second catalogue holds its matches in order, and there is nothing to sort.
  have ordered : (ofEntries [cursorPlace, fileLength]).search "LO".toList 10 =
      [⟨cursorPlace, 80, .opening⟩, ⟨fileLength, 80, .opening⟩] := by
    change cut 10 (List.mergeSort _ _) = _
    rw [List.mergeSort_of_pairwise (by decide +kernel)]
    rfl
  refine ⟨?_, swapped, distinct, alike _ swapped distinct⟩
  rw [(alike _ swapped distinct).search, ordered]
  rfl

end Catalog
end BasicBench.Keyword
