import BasicBench.Editor.Help
import Mathlib.Data.List.Dedup
import Mathlib.Data.List.Induction
import Mathlib.Data.List.Nodup

/-!
Catalogues and what was added to them. Whatever entries are added, with whatever names and aliases,
a catalogue holds under each upper-case name the last entry that was added under it, and every alias
stands for a name that is there. So a name that is known leads to an entry, and whatever a query
names leads back to the entry that the query found.
-/

set_option autoImplicit false

namespace BasicBench.Keyword

open Text

/-! Tables. -/

section Tables

variable {Value : Type} {key wanted : Text} {value : Value} {table : List (Text × Value)}

theorem nodup_keys_put (distinct : (table.map (·.1)).Nodup) :
    ((put key value table).map (·.1)).Nodup := by
  rw [keys_put]
  split
  · exact distinct
  · next fresh =>
      rw [List.nodup_append]
      refine ⟨distinct, by simp, fun other member last single same => fresh ?_⟩
      rwa [← List.mem_singleton.mp single, ← same]

theorem mem_keys_put :
    wanted ∈ (put key value table).map (·.1) ↔ wanted ∈ table.map (·.1) ∨ wanted = key := by
  rw [keys_put]
  split
  · next here => exact ⟨.inl, fun known => known.elim id (· ▸ here)⟩
  · rw [List.mem_append, List.mem_singleton]

theorem mem_put {pair : Text × Value} (member : pair ∈ put key value table) :
    pair ∈ table ∨ pair = (key, value) := by
  induction table with
  | nil => exact .inr (List.mem_singleton.mp member)
  | cons head rest induction =>
      obtain ⟨other, old⟩ := head
      rw [put] at member
      split at member
      · rcases List.mem_cons.mp member with new | later
        · exact .inr new
        · exact .inl (List.mem_cons_of_mem _ later)
      · rcases List.mem_cons.mp member with first | later
        · exact .inl (first ▸ List.mem_cons_self)
        · exact (induction later).imp_left (List.mem_cons_of_mem _)

/-- In a table without repeated keys a key has the value beside it. -/
theorem mem_iff_lookup (distinct : (table.map (·.1)).Nodup) :
    (key, value) ∈ table ↔ table.lookup key = some value := by
  induction table with
  | nil => simp
  | cons head rest induction =>
      obtain ⟨other, old⟩ := head
      rw [List.map_cons, List.nodup_cons] at distinct
      rw [List.mem_cons, List.lookup_cons, Prod.mk.injEq]
      cases same : key == other with
      | true =>
          obtain rfl := beq_iff_eq.mp same
          have absent : (key, value) ∉ rest := fun member => distinct.1 (List.mem_map.mpr ⟨_, member, rfl⟩)
          simp [absent, eq_comm]
      | false =>
          have differs : key ≠ other := beq_eq_false_iff_ne.mp same
          simp [differs, induction distinct.2]

theorem lookup_some_iff : (table.lookup key).isSome = true ↔ key ∈ table.map (·.1) := by
  rw [List.lookup_isSome_iff, List.mem_map]
  exact exists_congr fun pair => and_congr_right fun _ => beq_iff_eq.trans eq_comm

end Tables

/-! The last of a kind. -/

section Last

variable {Item : Type} {items : List Item} {item : Item} {keep : Item → Bool}

theorem find_reverse_concat : (items ++ [item]).reverse.find? keep =
    if keep item then some item else items.reverse.find? keep := by
  rw [List.reverse_append, List.reverse_singleton, List.singleton_append, List.find?_cons]
  cases keep item <;> rfl

theorem find_reverse_some_iff : items.reverse.find? keep = some item ↔ keep item = true ∧
    ∃ before after, items = before ++ item :: after ∧ ∀ later ∈ after, keep later = false := by
  rw [List.find?_eq_some_iff_append]
  refine and_congr_right fun _ => ⟨?_, ?_⟩
  · rintro ⟨after, before, split, others⟩
    refine ⟨before.reverse, after.reverse, ?_, fun later member => ?_⟩
    · rw [← List.reverse_reverse items, split]
      simp
    · simpa using others later (List.mem_reverse.mp member)
  · rintro ⟨before, after, rfl, others⟩
    exact ⟨after.reverse, before.reverse, by simp, fun later member => by
      simpa using others later (List.mem_reverse.mp member)⟩

end Last

/-! Histories. -/

namespace Catalog

/-- The last entry that was added under a key. -/
def latest? (added : List Entry) (key : Text) : Option Entry :=
  added.reverse.find? fun entry => keyOf entry.name == key

theorem latest_concat (added : List Entry) (entry : Entry) (key : Text) :
    latest? (added ++ [entry]) key =
      if key = keyOf entry.name then some entry else latest? added key := by
  rw [latest?, find_reverse_concat, latest?]
  exact if_congr (beq_iff_eq.trans eq_comm) rfl rfl

/-- No entry behind this one was added under the same key. -/
theorem latest_some_iff (added : List Entry) (key : Text) (entry : Entry) :
    latest? added key = some entry ↔ key = keyOf entry.name ∧
      ∃ before after, added = before ++ entry :: after ∧
        ∀ later ∈ after, keyOf later.name ≠ keyOf entry.name := by
  rw [latest?, find_reverse_some_iff, beq_iff_eq, eq_comm]
  refine and_congr_right fun same => ?_
  subst same
  simp only [beq_eq_false_iff_ne]

/-- A catalogue that is what the entries added to it say. -/
structure Records (added : List Entry) (catalog : Catalog) : Prop where
  distinct : (catalog.entries.map (·.1)).Nodup
  latest : ∀ key, catalog.entries.lookup key = latest? added key
  keys : ∀ key, key ∈ catalog.entries.map (·.1) ↔ key ∈ added.map fun entry => keyOf entry.name
  targets : ∀ link ∈ catalog.aliases, link.2 ∈ catalog.entries.map (·.1)
  aliased : ∀ entry ∈ added, ∀ other ∈ entry.aliases, keyOf other ∈ catalog.aliases.map (·.1)

/-- The aliases of an entry, put among those of others. -/
theorem aliases_put (names : List String) (target : Text) (table : List (Text × Text)) :
    (∀ link ∈ names.foldl (fun table other => put (keyOf other) target table) table,
      link ∈ table ∨ link.2 = target) ∧
    ∀ key, key ∈ (names.foldl (fun table other => put (keyOf other) target table) table).map (·.1) ↔
      key ∈ table.map (·.1) ∨ key ∈ names.map keyOf := by
  induction names generalizing table with
  | nil => exact ⟨fun link member => .inl member, fun key => by simp⟩
  | cons name names induction =>
      obtain ⟨links, keys⟩ := induction (put (keyOf name) target table)
      refine ⟨fun link member => ?_, fun key => ?_⟩
      · rcases links link member with early | same
        · exact (mem_put early).imp_right fun new => by rw [new]
        · exact .inr same
      · rw [List.foldl_cons, keys, mem_keys_put, List.map_cons, List.mem_cons, or_assoc]

theorem records_add {added : List Entry} {catalog : Catalog} (records : Records added catalog)
    (entry : Entry) : Records (added ++ [entry]) (catalog.add entry) := by
  obtain ⟨links, names⟩ := aliases_put entry.aliases (keyOf entry.name) catalog.aliases
  have known (key : Text) : key ∈ (catalog.add entry).entries.map (·.1) ↔
      key ∈ catalog.entries.map (·.1) ∨ key = keyOf entry.name := mem_keys_put
  constructor
  case distinct => exact nodup_keys_put records.distinct
  case latest =>
    intro key
    rw [latest_concat, ← records.latest]
    exact lookup_put ..
  case keys =>
    intro key
    rw [known, records.keys, List.map_append, List.mem_append, List.map_singleton,
      List.mem_singleton]
  case targets =>
    intro link member
    rw [known]
    exact (links link member).imp_left (records.targets link)
  case aliased =>
    intro earlier member other listed
    refine (names _).mpr ?_
    rcases List.mem_append.mp member with old | new
    · exact .inl (records.aliased earlier old other listed)
    · obtain rfl := List.mem_singleton.mp new
      exact .inr (List.mem_map_of_mem listed)

theorem records_of_entries (added : List Entry) : Records added (ofEntries added) := by
  induction added using List.reverseRecOn with
  | nil =>
      exact ⟨.nil, fun _ => rfl, fun _ => .rfl, fun _ member => absurd member List.not_mem_nil,
        fun _ member => absurd member List.not_mem_nil⟩
  | append_singleton added entry induction =>
      rw [ofEntries, List.foldl_append]
      exact records_add induction entry

/-! What a name leads to. -/

section Lookup

variable {added : List Entry} {catalog : Catalog} (records : Records added catalog)

include records

theorem mem_entries_iff (key : Text) (entry : Entry) :
    (key, entry) ∈ catalog.entries ↔ latest? added key = some entry := by
  rw [mem_iff_lookup records.distinct, records.latest]

theorem key_of_mem {key : Text} {entry : Entry} (member : (key, entry) ∈ catalog.entries) :
    key = keyOf entry.name :=
  ((latest_some_iff ..).mp ((mem_entries_iff records key entry).mp member)).1

theorem find_of_mem {entry : Entry} (member : entry ∈ catalog.toList) :
    catalog.find? entry.name.toList = some entry := by
  obtain ⟨⟨key, stored⟩, held, rfl⟩ := List.mem_map.mp member
  have found := (mem_iff_lookup records.distinct).mp held
  rw [key_of_mem records held] at found
  change catalog.entries.lookup (upper stored.name.toList) = some stored at found
  rw [find?, found]

/-- A name leads to an entry exactly when it is the name of one or an alias. -/
theorem find_some_iff (name : Text) : (catalog.find? name).isSome = true ↔
    upper name ∈ catalog.entries.map (·.1) ∨ upper name ∈ catalog.aliases.map (·.1) := by
  rw [find?, ← lookup_some_iff, ← lookup_some_iff]
  cases catalog.entries.lookup (upper name) with
  | some entry => simp
  | none =>
      cases linked : catalog.aliases.lookup (upper name) with
      | none => simp
      | some key =>
          obtain ⟨before, after, split, -⟩ := List.lookup_eq_some_iff.mp linked
          have held := records.targets (upper name, key) (by simp [split])
          simpa using lookup_some_iff.mpr held

theorem size_eq : catalog.size = (added.map fun entry => keyOf entry.name).dedup.length := by
  have same : (catalog.entries.map (·.1)).Perm (added.map fun entry => keyOf entry.name).dedup :=
    (List.perm_ext_iff_of_nodup records.distinct (List.nodup_dedup _)).mpr fun key => by
      rw [records.keys, List.mem_dedup]
  rw [size, ← same.length_eq, List.length_map]

end Lookup

/-! What the queries name. -/

theorem mem_of_cut {Item : Type} {count : Int} {items : List Item} {item : Item}
    (member : item ∈ cut count items) : item ∈ items := by
  unfold cut at member
  split at member
  · exact List.mem_of_mem_take member
  · exact List.mem_of_mem_take member

theorem mem_of_by_name {entries : List Entry} {keep : Entry → Bool} {entry : Entry}
    (member : entry ∈ byName (entries.filter keep)) : entry ∈ entries := by
  rw [byName, List.mem_mergeSort] at member
  exact (List.mem_filter.mp member).1

variable {catalog : Catalog}

theorem mem_scored_iff {query : Query} {hit : Match} :
    hit ∈ catalog.scored query ↔ ∃ key, (key, hit.entry) ∈ catalog.entries ∧
      query.score? (lower key) hit.entry = some (hit.relevance, hit.kind) := by
  obtain ⟨entry, relevance, kind⟩ := hit
  simp [scored]

theorem mem_of_search {query : Text} {limit : Int} {hit : Match}
    (found : hit ∈ catalog.search query limit) : hit.entry ∈ catalog.toList := by
  rw [search] at found
  split at found
  · cases found
  · obtain ⟨key, member, -⟩ := mem_scored_iff.mp (List.mem_mergeSort.mp (mem_of_cut found))
    exact List.mem_map_of_mem member

theorem mem_of_complete {opening : Text} {limit : Int} {name : String}
    (found : name ∈ catalog.complete opening limit) :
    ∃ key entry, (key, entry) ∈ catalog.entries ∧ startsWith (upper opening) key = true ∧
      entry.name = name := by
  obtain ⟨⟨key, entry⟩, member, rfl⟩ := List.mem_map.mp (List.mem_mergeSort.mp (mem_of_cut found))
  obtain ⟨held, starts⟩ := List.mem_filter.mp member
  exact ⟨key, entry, held, starts, rfl⟩

/-! Catalogues. -/

/-- What is stored of the entries that were added. -/
structure Keeps (added : List Entry) (catalog : Catalog) : Prop where
  /-- Under a key stands the last entry that was added under it. -/
  entries : ∀ key entry, (key, entry) ∈ catalog.entries ↔ key = keyOf entry.name ∧
    ∃ before after, added = before ++ entry :: after ∧
      ∀ later ∈ after, keyOf later.name ≠ keyOf entry.name
  size : catalog.size = (added.map fun entry => keyOf entry.name).dedup.length
  targets : ∀ link ∈ catalog.aliases, link.2 ∈ catalog.entries.map (·.1)
  /-- No name is known and leads nowhere. -/
  known : ∀ name, (catalog.find? name).isSome = true ↔
    upper name ∈ catalog.entries.map (·.1) ∨ upper name ∈ catalog.aliases.map (·.1)
  aliased : ∀ entry ∈ added, ∀ other ∈ entry.aliases, (catalog.find? other.toList).isSome = true

/-- Whatever a query names leads back to the entry that it found. -/
structure LeadsBack (catalog : Catalog) : Prop where
  search : ∀ query limit, ∀ hit ∈ catalog.search query limit,
    catalog.find? hit.entry.name.toList = some hit.entry
  complete : ∀ opening limit, ∀ name ∈ catalog.complete opening limit,
    ∃ entry ∈ catalog.toList, startsWith (upper opening) (keyOf entry.name) = true ∧
      entry.name = name ∧ catalog.find? name.toList = some entry
  alternatives : ∀ name, ∀ other ∈ catalog.alternatives name,
    ∃ hit ∈ catalog.search name 5, hit.entry.name = other ∧
      catalog.find? other.toList = some hit.entry
  ofKind : ∀ kind, ∀ entry ∈ catalog.ofKind kind, catalog.find? entry.name.toList = some entry
  ofDialect : ∀ dialect, ∀ entry ∈ catalog.ofDialect dialect,
    catalog.find? entry.name.toList = some entry
  deprecated : ∀ entry ∈ catalog.deprecated, catalog.find? entry.name.toList = some entry
  /-- Each name that an editor is to offer has an entry to show with it. -/
  completions : ∀ word, (Editor.completions catalog word).map (·.label) =
    catalog.complete word Editor.mostCompletions

theorem keeps_of_records {added : List Entry} (records : Records added catalog) :
    Keeps added catalog where
  entries key entry := (mem_entries_iff records key entry).trans (latest_some_iff ..)
  size := size_eq records
  targets := records.targets
  known := find_some_iff records
  aliased entry member other listed :=
    (find_some_iff records _).mpr (.inr (records.aliased entry member other listed))

theorem leads_back_of_records {added : List Entry} (records : Records added catalog) :
    LeadsBack catalog := by
  have complete (opening : Text) (limit : Int) (name : String)
      (found : name ∈ catalog.complete opening limit) : ∃ entry ∈ catalog.toList,
        startsWith (upper opening) (keyOf entry.name) = true ∧ entry.name = name ∧
          catalog.find? name.toList = some entry := by
    obtain ⟨key, entry, held, starts, rfl⟩ := mem_of_complete found
    have member : entry ∈ catalog.toList := List.mem_map.mpr ⟨_, held, rfl⟩
    exact ⟨entry, member, key_of_mem records held ▸ starts, rfl, find_of_mem records member⟩
  constructor
  case search => exact fun _ _ hit found => find_of_mem records (mem_of_search found)
  case complete => exact complete
  case alternatives =>
    intro name other listed
    obtain ⟨hit, found, rfl⟩ := List.mem_map.mp (List.mem_filter.mp listed).1
    exact ⟨hit, found, rfl, find_of_mem records (mem_of_search found)⟩
  case ofKind => exact fun _ _ member => find_of_mem records (mem_of_by_name member)
  case ofDialect => exact fun _ _ member => find_of_mem records (mem_of_by_name member)
  case deprecated => exact fun _ member => find_of_mem records (mem_of_by_name member)
  case completions =>
    intro word
    rw [Editor.completions, List.map_filterMap]
    conv => rhs; rw [← List.filterMap_some (l := catalog.complete word Editor.mostCompletions)]
    refine List.filterMap_congr fun name offered => ?_
    obtain ⟨entry, -, -, -, found⟩ := complete word _ name offered
    rw [found]
    rfl

/-- A catalogue keeps the entries that were last added under each name, with all aliases leading to
some entry, and every name that it gives out leads back to where it comes from. -/
theorem catalog_keeps_what_was_added (added : List Entry) :
    (ofEntries added).Keeps added ∧ (ofEntries added).LeadsBack :=
  ⟨keeps_of_records (records_of_entries added), leads_back_of_records (records_of_entries added)⟩

/-- A keyword with an alias, and behind it the same keyword in capitals without one. -/
def printTwice : List Entry := [
  { name := "Print", kind := .statement, category := "console", description := "Writes text.",
    aliases := ["?"] },
  { name := "PRINT", kind := .statement, category := "console", description := "Writes a line." }]

/-- The second takes the place of the first, and the alias of the first leads to it. -/
theorem alias_of_replaced_entry :
    (ofEntries printTwice).size = 1 ∧
    ((ofEntries printTwice).find? "?".toList).map (·.description) = some "Writes a line." ∧
    ((ofEntries printTwice).find? "?".toList).isSome = true := by
  obtain ⟨keeps, -⟩ := catalog_keeps_what_was_added printTwice
  exact ⟨keeps.size.trans (by decide), by decide,
    keeps.aliased _ List.mem_cons_self "?" (List.mem_singleton.mpr rfl)⟩

end Catalog
end BasicBench.Keyword
