import BasicBench.Proofs.SearchTiers
import BasicBench.Proofs.SilentLines

/-!
Completions and searches. A completion compares upper-case keys and a search lower-case ones, and a
search tries other rules before it looks at the opening of a name. In ASCII both come to the same:
a name that goes on behind what was typed differs from it, with or without its underscore.
-/

set_option autoImplicit false

namespace BasicBench.Keyword

open Text

/-- A text that goes on differs from its opening also where one leading underscore is dropped. -/
theorem drop_underscore_append_ne {opening more : Text} (asked : opening ≠ []) (goes : more ≠ []) :
    dropUnderscore (opening ++ more) ≠ dropUnderscore opening := by
  obtain ⟨c, others, rfl⟩ := List.exists_cons_of_ne_nil asked
  intro same
  by_cases mark : c = '_'
  · subst mark
    exact goes (List.append_right_eq_self.mp same)
  · have kept (text : Text) : dropUnderscore (c :: text) = c :: text := by
      rw [dropUnderscore]
      rintro rest head
      exact mark (List.cons.inj head).1
    rw [List.cons_append, kept, kept, ← List.cons_append] at same
    exact goes (List.append_right_eq_self.mp same)

/-- Only the opening of a name makes a match of this kind. -/
theorem starts_of_opening {query : Query} {name : Text} {entry : Entry} {relevance : Nat}
    (found : query.score? name entry = some (relevance, .opening)) :
    startsWith query.lowered name = true := by
  cases scores_of_some found with
  | opening starts => exact starts

section Names

variable {opening name : Text} (plain : IsAscii opening) (plain_name : IsAscii name)

include plain plain_name

theorem lower_inj (same : lower name = lower opening) : upper name = upper opening := by
  rw [← upper_lower plain_name, same, upper_lower plain]

/-- A key opens with the upper case of a text exactly when its lower case opens with the lower
case of the text. -/
theorem starts_upper_iff : upper opening <+: upper name ↔ lower opening <+: lower (upper name) := by
  rw [lower_upper plain_name]
  constructor
  · rintro ⟨more, split⟩
    have noSigma : capitalSigma ∉ more := fun inside =>
      (no_sigma_of_ascii plain_name).2 (split ▸ List.mem_append_right _ inside)
    refine ⟨lower more, ?_⟩
    rw [← lower_upper plain, ← lower_append _ _ (no_sigma_of_ascii plain).2 noSigma, split,
      lower_upper plain_name]
  · rintro ⟨more, split⟩
    exact ⟨upper more, by rw [← upper_lower plain, ← upper_append, split, upper_lower plain_name]⟩

/-- A name that opens with the query is the query, or it is matched for its opening. -/
theorem opens_iff_scored (asked : opening ≠ []) (entry : Entry) :
    startsWith (upper opening) (upper name) = true ↔
      (∃ relevance, (Query.ofText opening).score? (lower (upper name)) entry =
        some (relevance, .opening)) ∨ upper name = upper opening := by
  have lowered : (Query.ofText opening).lowered = lower opening := rfl
  rw [startsWith, List.isPrefixOf_iff_prefix, starts_upper_iff plain plain_name]
  constructor
  · rintro ⟨more, split⟩
    by_cases named : upper name = upper opening
    · exact .inr named
    · have goes : more ≠ [] := by
        rintro rfl
        rw [List.append_nil, lower_upper plain_name] at split
        exact named (lower_inj plain plain_name split.symm)
      have filled : lower opening ≠ [] := fun nothing => by
        have none := upper_lower plain
        rw [nothing] at none
        exact asked (eq_nil_of_upper none.symm)
      refine .inl ⟨80, ?_⟩
      rw [Query.score?, lowered, ← split, if_neg, if_neg (drop_underscore_append_ne filled goes),
        if_pos]
      · exact List.isPrefixOf_iff_prefix.mpr (List.prefix_append ..)
      · exact fun same => goes (List.append_right_eq_self.mp same)
  · rintro (⟨relevance, found⟩ | named)
    · exact List.isPrefixOf_iff_prefix.mp (starts_of_opening found)
    · rw [named, lower_upper plain]

end Names

namespace Catalog

theorem cut_eq_self {Item : Type} {count : Int} {items : List Item}
    (room : (items.length : Int) ≤ count) : cut count items = items := by
  cases count with
  | ofNat count => exact List.take_of_length_le (Int.ofNat_le.mp room)
  | negSucc left => omega

variable {added : List Entry} {catalog : Catalog} (records : Records added catalog)

include records

theorem mem_search_of_room {opening : Text} {limit : Int} (asked : opening ≠ [])
    (room : (catalog.size : Int) ≤ limit) {hit : Match} :
    hit ∈ catalog.search opening limit ↔ hit.entry ∈ catalog.toList ∧
      (Query.ofText opening).score? (lower (keyOf hit.entry.name)) hit.entry =
        some (hit.relevance, hit.kind) := by
  rw [search, if_neg (by simpa using asked), cut_eq_self, List.mem_mergeSort,
    mem_scored_of_records records]
  rw [List.length_mergeSort]
  exact (Int.ofNat_le.mpr (List.length_filterMap_le ..)).trans room

/-- The names that are offered, in order. -/
theorem complete_ascending (opening : Text) (limit : Int) :
    (catalog.complete opening limit).Pairwise (· < ·) := by
  rw [complete]
  refine List.Pairwise.sublist (cut_isPrefix limit _).sublist ?_
  have stored := names_distinct records
  rw [toList, List.map_map] at stored
  have once := stored.sublist ((List.filter_sublist (p := fun pair : Text × Entry =>
    startsWith (upper opening) pair.1)).map fun pair => pair.2.name)
  have sorted := sorted_by_name (fun name : String => name)
    ((catalog.entries.filter fun pair => startsWith (upper opening) pair.1).map fun pair => pair.2.name)
  have apart := (List.mergeSort_perm _ fun a b : String => a ≤ b).nodup_iff.mpr once
  exact sorted.imp₂ (fun _ _ ordered differs => ordered.lt_of_ne differs) apart

theorem mem_complete_of_room {opening : Text} {limit : Int} (room : (catalog.size : Int) ≤ limit)
    {name : String} : name ∈ catalog.complete opening limit ↔ ∃ entry ∈ catalog.toList,
      startsWith (upper opening) (keyOf entry.name) = true ∧ entry.name = name := by
  rw [complete, cut_eq_self, List.mem_mergeSort, List.mem_map]
  · constructor
    · rintro ⟨⟨key, entry⟩, listed, rfl⟩
      obtain ⟨held, starts⟩ := List.mem_filter.mp listed
      exact ⟨entry, List.mem_map_of_mem held, key_of_mem records held ▸ starts, rfl⟩
    · rintro ⟨entry, member, starts, rfl⟩
      obtain ⟨⟨key, stored⟩, held, rfl⟩ := List.mem_map.mp member
      refine ⟨(key, stored), List.mem_filter.mpr ⟨held, ?_⟩, rfl⟩
      rw [key_of_mem records held]
      exact starts
  · rw [List.length_mergeSort, List.length_map]
    exact (Int.ofNat_le.mpr (List.length_filter_le ..)).trans room

omit records

/-- In ASCII, and with room for all entries, the completions of a text are the names that a search
for it matches for their opening, together with the name that it spells, in ascending order. -/
theorem completions_are_openings (added : List Entry) (opening : Text) (limit depth : Int)
    (asked : opening ≠ []) (plain : IsAscii opening)
    (plain_names : ∀ entry ∈ (ofEntries added).toList, IsAscii entry.name.toList)
    (room : (ofEntries added).size ≤ limit) (deep : (ofEntries added).size ≤ depth) :
    (∀ name, name ∈ (ofEntries added).complete opening limit ↔
      (∃ hit ∈ (ofEntries added).search opening depth,
        hit.kind = .opening ∧ hit.entry.name = name) ∨
      ∃ entry ∈ (ofEntries added).toList, keyOf entry.name = upper opening ∧ entry.name = name) ∧
    ((ofEntries added).complete opening limit).Pairwise (· < ·) := by
  have records := records_of_entries added
  refine ⟨fun name => ?_, complete_ascending records opening limit⟩
  rw [mem_complete_of_room records room]
  constructor
  · rintro ⟨entry, member, starts, rfl⟩
    rcases (opens_iff_scored plain (plain_names entry member) asked entry).mp starts with
      ⟨relevance, found⟩ | named
    · refine .inl ⟨⟨entry, relevance, .opening⟩, ?_, rfl, rfl⟩
      exact (mem_search_of_room records asked deep).mpr ⟨member, found⟩
    · exact .inr ⟨entry, member, named, rfl⟩
  · have starts_of {entry : Entry} (member : entry ∈ (ofEntries added).toList) :=
      (opens_iff_scored plain (plain_names entry member) asked entry).mpr
    rintro (⟨⟨entry, relevance, kind⟩, listed, rfl, rfl⟩ | ⟨entry, member, named, rfl⟩)
    · obtain ⟨member, found⟩ := (mem_search_of_room records asked deep).mp listed
      exact ⟨entry, member, starts_of member (.inl ⟨relevance, found⟩), rfl⟩
    · exact ⟨entry, member, starts_of member (.inr named), rfl⟩

/-- A keyword, and one whose name opens the first. -/
def placeKeywords : List Entry := [cursorPlace,
  { name := "Loc", kind := .function, category := "files", description := "A place in a file." }]

/-- What was typed opens the first name and is the second one. -/
theorem completions_of_place :
    "loc".toList ≠ [] ∧ IsAscii "loc".toList ∧
    (∀ entry ∈ (ofEntries placeKeywords).toList, IsAscii entry.name.toList) ∧
    (ofEntries placeKeywords).size ≤ (2 : Int) ∧
    (ofEntries placeKeywords).complete "loc".toList 2 = ["LOCATE", "Loc"] ∧
    ("LOCATE" ∈ (ofEntries placeKeywords).complete "loc".toList 2 ↔
      (∃ hit ∈ (ofEntries placeKeywords).search "loc".toList 10,
        hit.kind = .opening ∧ hit.entry.name = "LOCATE") ∨
      ∃ entry ∈ (ofEntries placeKeywords).toList,
        keyOf entry.name = upper "loc".toList ∧ entry.name = "LOCATE") := by
  have asked : "loc".toList ≠ [] := by decide
  have plain : IsAscii "loc".toList := by decide
  have plain_names : ∀ entry ∈ (ofEntries placeKeywords).toList, IsAscii entry.name.toList := by
    decide
  have room : (ofEntries placeKeywords).size ≤ (2 : Int) := by decide
  refine ⟨asked, plain, plain_names, room, ?_, ?_⟩
  · change cut 2 (List.mergeSort ["LOCATE", "Loc"] _) = _
    rw [List.mergeSort_of_pairwise (by decide)]
    rfl
  · exact (completions_are_openings placeKeywords "loc".toList 2 10 asked plain plain_names room
      (by decide)).1 "LOCATE"

end Catalog
end BasicBench.Keyword
