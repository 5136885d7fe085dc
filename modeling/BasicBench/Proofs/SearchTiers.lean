import BasicBench.Proofs.Ranking

/-!
The tiers of a search. Exact matches come first, then names that begin with the query, then all
others, and in ASCII the entry that the query names is the first of all. What can break the order is
a name with some of the parts of the query but not all: ten points for each part have no bound, so
three parts reach the tier of the openings, five that of the exact matches, and six go beyond 100.
-/

set_option autoImplicit false

namespace BasicBench.Keyword

open Text

/-! Letter case in ASCII. -/

def IsAscii (text : Text) : Prop := ∀ c ∈ text, c.toNat < 128

-- Named, since instance search may come up with a check of every character there is.
instance (text : Text) : Decidable (IsAscii text) :=
  List.decidableBAll (fun c : Char => c.toNat < 128) text

theorem ascii_cases (c : Char) (small : c.toNat < 128) :
    (upperChar c).flatMap lowerChar = lowerChar c ∧ (lowerChar c).flatMap upperChar = upperChar c ∧
      capitalSigma ∉ c :: upperChar c := by
  have all : ∀ code < 128, (upperChar (Char.ofNat code)).flatMap lowerChar =
      lowerChar (Char.ofNat code) ∧
        (lowerChar (Char.ofNat code)).flatMap upperChar = upperChar (Char.ofNat code) ∧
          capitalSigma ∉ Char.ofNat code :: upperChar (Char.ofNat code) := by
    decide +kernel
  rw [← Char.ofNat_toNat c]
  exact all c.toNat small

theorem no_sigma_of_ascii {text : Text} (plain : IsAscii text) :
    capitalSigma ∉ text ∧ capitalSigma ∉ upper text := by
  constructor
  · exact fun found => (ascii_cases _ (plain _ found)).2.2 List.mem_cons_self
  · intro found
    obtain ⟨c, member, formed⟩ := List.mem_flatMap.mp found
    exact (ascii_cases c (plain c member)).2.2 (List.mem_cons_of_mem _ formed)

theorem lower_of_ascii {text : Text} (plain : IsAscii text) : lower text = text.flatMap lowerChar :=
  lowerFrom_of_no_sigma [] text (no_sigma_of_ascii plain).1

theorem lower_upper {text : Text} (plain : IsAscii text) : lower (upper text) = lower text := by
  rw [lower_of_ascii plain, lower, lowerFrom_of_no_sigma _ _ (no_sigma_of_ascii plain).2, upper,
    List.flatMap_assoc]
  exact List.flatMap_congr fun c member => (ascii_cases c (plain c member)).1

theorem upper_lower {text : Text} (plain : IsAscii text) : upper (lower text) = upper text := by
  rw [lower_of_ascii plain, upper, List.flatMap_assoc, upper]
  exact List.flatMap_congr fun c member => (ascii_cases c (plain c member)).2.1

/-! What relevance says about the kind of a match. -/

/-- The tiers, the best first. -/
def MatchKind.tier : MatchKind → Nat
  | .exact => 0
  | .opening => 1
  | .fuzzy | .contains | .related => 2

/-- The relevance of a name, as far as its tier goes. -/
inductive Query.Grades (query : Query) (name : Text) (relevance : Nat) (kind : MatchKind) : Prop where
  | exact (is : kind = .exact) (bounds : 95 ≤ relevance ∧ relevance ≤ 100)
      (equal : relevance = 100 → name = query.lowered)
  | opening (is : kind = .opening) (grade : relevance = 80)
  | low (last : kind.tier = 2) (bounds : 1 ≤ relevance ∧ relevance ≤ 75)
  | crowded (is : kind = .contains) (many : 3 ≤ (query.partsIn name).length)
      (partly : (query.partsIn name).length < query.parts.length)
      (grade : relevance = 50 + (query.partsIn name).length * 10)

theorem misspelling_le {query : Query} {name : Text} {relevance : Nat}
    (found : query.misspelling? name = some relevance) : relevance ≤ 75 := by
  obtain ⟨tolerance, -, near⟩ := Option.bind_eq_some_iff.mp found
  dsimp only at near
  split at near
  · have same := Option.some.inj near
    omega
  · cases near

theorem grades_of_shared {query : Query} {name : Text} {relevance : Nat}
    (found : query.shared? name = some relevance) : query.Grades name relevance .contains := by
  have most : (query.partsIn name).length ≤ query.parts.length := List.length_filter_le ..
  have positive := shared_pos found
  unfold Query.shared? at found
  dsimp only at found
  split at found
  · cases found
  · split at found
    · exact .low rfl (Option.some.inj found ▸ by decide)
    · next partly =>
        have grade := (Option.some.inj found).symm
        by_cases many : 3 ≤ (query.partsIn name).length
        · exact .crowded rfl many (Nat.lt_of_le_of_ne most partly) grade
        · exact .low rfl (by omega)

theorem grades_of_score {query : Query} {name : Text} {entry : Entry} {relevance : Nat}
    {kind : MatchKind} (found : query.score? name entry = some (relevance, kind)) :
    query.Grades name relevance kind := by
  have positive := score_pos found
  cases scores_of_some found with
  | same equal => exact .exact rfl (by decide) fun _ => equal
  | underscored => exact .exact rfl (by decide) fun hundred => by cases hundred
  | opening => exact .opening rfl rfl
  | misspelt near => exact .low rfl ⟨positive, misspelling_le near⟩
  | parts shared => exact grades_of_shared shared
  | _ => exact .low rfl (by decide)

/-! Results of a search. -/

/-- Some parts of the query stand in the name of the entry, at least so many, but not all. -/
def Match.SharesParts (query : Text) (hit : Match) (least : Nat) : Prop :=
  hit.kind = .contains ∧ ∃ count,
    count = ((Query.ofText query).partsIn (lower (Catalog.keyOf hit.entry.name))).length ∧
    least ≤ count ∧ count < (Query.ofText query).parts.length ∧ hit.relevance = 50 + count * 10

namespace Catalog

theorem cut_isPrefix {Item : Type} (count : Int) (items : List Item) : cut count items <+: items := by
  unfold cut
  split
  · exact List.take_prefix ..
  · exact List.take_prefix ..

theorem cut_ne_nil {Item : Type} {count : Int} {items : List Item} (positive : 0 < count)
    (filled : items ≠ []) : cut count items ≠ [] := by
  cases count with
  | ofNat count =>
      rw [cut, Ne, List.take_eq_nil_iff]
      rintro (none | empty)
      · rw [none] at positive
        exact absurd positive (by decide)
      · exact filled empty
  | negSucc left => exact absurd positive (by simp)

/-- The order of tiers in the results of a search, but for the matches that `exempt` lets pass. -/
structure KeepsTiers (exempt : Match → Nat → Prop) (catalog : Catalog) (query : Text)
    (limit : Int) : Prop where
  bounded : ∀ hit ∈ catalog.search query limit,
    1 ≤ hit.relevance ∧ (hit.relevance ≤ 100 ∨ exempt hit 6)
  ordered : (catalog.search query limit).Pairwise fun first second =>
    first.kind.tier ≤ second.kind.tier ∨ exempt first (if second.kind = .exact then 5 else 3)
  /-- The entry that the query names comes first. -/
  named : ∀ entry ∈ catalog.toList, keyOf entry.name = upper query →
    (0 < limit → catalog.search query limit ≠ []) ∧
      ∀ first, (catalog.search query limit).head? = some first →
        first = ⟨entry, 100, .exact⟩ ∨ exempt first 5

theorem keeps_tiers_mono {exempt allowed : Match → Nat → Prop} {catalog : Catalog} {query : Text}
    {limit : Int} (more : ∀ hit least, 3 ≤ least → exempt hit least → allowed hit least)
    (keeps : KeepsTiers exempt catalog query limit) : KeepsTiers allowed catalog query limit where
  bounded hit member :=
    (keeps.bounded hit member).imp_right (Or.imp_right (more hit 6 (by decide)))
  ordered := keeps.ordered.imp fun ordered => ordered.imp_right (more _ _ (by split <;> decide))
  named entry member same :=
    (keeps.named entry member same).imp_right fun leads first head =>
      (leads first head).imp_right (more first 5 (by decide))

section Results

variable {added : List Entry} {catalog : Catalog} (records : Records added catalog)

include records

theorem entry_unique {entry other : Entry} (member : entry ∈ catalog.toList)
    (member' : other ∈ catalog.toList) (same : keyOf entry.name = keyOf other.name) :
    entry = other := by
  have found := find_of_mem records member
  rw [find?, show upper entry.name.toList = upper other.name.toList from same] at found
  exact Option.some.inj (found.symm.trans (find_of_mem records member'))

variable {query : Text} {ranking : List Match} (ranks : catalog.Ranks query ranking)

/-- In ASCII no other entry has the name that the query asks for, in any letter case. -/
theorem entry_of_lowered {entry other : Entry} (plain : IsAscii query)
    (plain_other : IsAscii other.name.toList) (member : entry ∈ catalog.toList)
    (member' : other ∈ catalog.toList) (same : keyOf entry.name = upper query)
    (lowered : lower (keyOf other.name) = lower query) : other = entry := by
  refine entry_unique records member' member ?_
  calc
    keyOf other.name = upper (lower other.name.toList) := (upper_lower plain_other).symm
    _ = upper (lower (keyOf other.name)) := by rw [keyOf, lower_upper plain_other]
    _ = upper (lower query) := by rw [lowered]
    _ = keyOf entry.name := by rw [upper_lower plain, same]

omit records

include ranks

theorem grades_of_mem {hit : Match} (member : hit ∈ ranking) :
    (Query.ofText query).Grades (lower (keyOf hit.entry.name)) hit.relevance hit.kind :=
  grades_of_score ((ranks.all hit).mp member).2.2

theorem bounded_of_mem {hit : Match} (member : hit ∈ ranking) :
    1 ≤ hit.relevance ∧ (hit.relevance ≤ 100 ∨ hit.SharesParts query 6) := by
  cases grades_of_mem ranks member with
  | exact _ bounds _ => exact ⟨by omega, .inl bounds.2⟩
  | opening _ grade => exact ⟨by omega, .inl (by omega)⟩
  | low _ bounds => exact ⟨bounds.1, .inl (by omega)⟩
  | crowded kind many partly grade =>
      refine ⟨by omega, ?_⟩
      by_cases six : 6 ≤ ((Query.ofText query).partsIn (lower (keyOf hit.entry.name))).length
      · exact .inr ⟨kind, _, rfl, six, partly, grade⟩
      · exact .inl (by omega)

/-- A match of a later tier stands in front only if it shares enough parts of the query. -/
theorem ordered_of_mem {first second : Match} (member : first ∈ ranking)
    (member' : second ∈ ranking) (order : second.relevance ≤ first.relevance) :
    first.kind.tier ≤ second.kind.tier ∨
      first.SharesParts query (if second.kind = .exact then 5 else 3) := by
  have last : first.kind.tier ≤ 2 := by cases first.kind <;> decide
  cases grades_of_mem ranks member with
  | exact kind _ _ => exact .inl (by rw [kind]; exact Nat.zero_le _)
  | opening kind grade =>
      cases grades_of_mem ranks member' with
      | exact _ bounds _ => omega
      | opening kind' _ => exact .inl (by rw [kind, kind'])
      | low tier _ => exact .inl (tier ▸ last)
      | crowded kind' _ _ _ => exact .inl (by rw [kind, kind']; decide)
  | low _ bounds =>
      cases grades_of_mem ranks member' with
      | exact _ bounds' _ => omega
      | opening _ _ => omega
      | low tier _ => exact .inl (tier ▸ last)
      | crowded kind' _ _ _ => exact .inl (by rw [kind']; exact last)
  | crowded kind many partly grade =>
      refine .inr ⟨kind, _, rfl, ?_, partly, grade⟩
      split
      · next exactly =>
          cases grades_of_mem ranks member' with
          | exact _ bounds _ => omega
          | opening kind' _ => exact absurd (exactly.symm.trans kind') (by decide)
          | low tier _ => rw [exactly] at tier; cases tier
          | crowded kind' _ _ _ => exact absurd (exactly.symm.trans kind') (by decide)
      · exact many

/-- An entry that the query names is among the matches. -/
theorem named_mem {entry : Entry} (plain : IsAscii query) (member : entry ∈ catalog.toList)
    (same : keyOf entry.name = upper query) : (⟨entry, 100, .exact⟩ : Match) ∈ ranking := by
  refine (ranks.all _).mpr ⟨member, Nat.succ_pos 99, ?_⟩
  rw [Query.score?, if_pos]
  rw [same, lower_upper plain]
  rfl

include records

theorem named_leads {entry : Entry} (plain : IsAscii query)
    (plain_names : ∀ entry ∈ catalog.toList, IsAscii entry.name.toList)
    (member : entry ∈ catalog.toList) (same : keyOf entry.name = upper query) {first : Match}
    {rest : List Match} (leads : ranking = first :: rest) :
    first = ⟨entry, 100, .exact⟩ ∨ first.SharesParts query 5 := by
  have listed := named_mem ranks plain member same
  have leading : first ∈ ranking := leads ▸ List.mem_cons_self
  rw [leads] at listed
  rcases List.mem_cons.mp listed with itself | behind
  · exact .inl itself.symm
  · have ordered := ranks.ordered
    rw [leads] at ordered
    have before := (List.pairwise_cons.mp ordered).1 _ behind
    have hundred : 100 ≤ first.relevance := before.elim Nat.le_of_lt fun level => level.1.ge
    cases grades_of_mem ranks leading with
    | exact kind bounds equal =>
        have relevance : first.relevance = 100 := Nat.le_antisymm bounds.2 hundred
        have known := ((ranks.all first).mp leading).1
        have itself := entry_of_lowered records plain (plain_names _ known) member known same
          (equal relevance)
        obtain ⟨_, _, _⟩ := first
        exact .inl (by simp_all)
    | opening _ grade => omega
    | low _ bounds => omega
    | crowded kind many partly grade => exact .inr ⟨kind, _, rfl, by omega, partly, grade⟩

end Results

/-- In every search the tiers are kept, but for matches that share some parts of the query and not
all: three parts may pass the openings, five the exact matches, six the relevance of 100. A query
with three parts or less has no such match. -/
theorem search_keeps_tiers (added : List Entry) (query : Text) (limit : Int) (asked : query ≠ [])
    (plain : IsAscii query) (plain_names : ∀ entry ∈ added, IsAscii entry.name.toList) :
    KeepsTiers (Match.SharesParts query) (ofEntries added) query limit ∧
    ((Query.ofText query).parts.length ≤ 3 →
      KeepsTiers (fun _ _ => False) (ofEntries added) query limit) := by
  have records := records_of_entries added
  let ranking := ((ofEntries added).scored (.ofText query)).mergeSort Match.before
  have ranks : (ofEntries added).Ranks query ranking := ranks_of_records records query
  have results : (ofEntries added).search query limit = cut limit ranking := by
    rw [search, if_neg (by simpa using asked)]
  have leading : (ofEntries added).search query limit <+: ranking :=
    results ▸ cut_isPrefix limit ranking
  have stored : ∀ entry ∈ (ofEntries added).toList, IsAscii entry.name.toList := by
    intro entry member
    obtain ⟨⟨key, _⟩, held, rfl⟩ := List.mem_map.mp member
    obtain ⟨-, before, after, split, -⟩ :=
      (latest_some_iff ..).mp ((mem_entries_iff records key _).mp held)
    exact plain_names _ (by rw [split]; simp)
  have keeps : KeepsTiers (Match.SharesParts query) (ofEntries added) query limit := by
    constructor
    case bounded => exact fun hit member => bounded_of_mem ranks (leading.subset member)
    case ordered =>
      refine (ranks.ordered.sublist leading.sublist).imp_of_mem fun here there before => ?_
      refine ordered_of_mem ranks (leading.subset here) (leading.subset there) ?_
      exact before.elim Nat.le_of_lt fun level => level.1.ge
    case named =>
      intro entry member same
      refine ⟨fun positive => ?_, fun first head => ?_⟩
      · rw [results]
        exact cut_ne_nil positive (List.ne_nil_of_mem (named_mem ranks plain member same))
      · obtain ⟨rest, shown⟩ := leading
        obtain ⟨others, first_of⟩ := List.head?_eq_some_iff.mp head
        rw [first_of] at shown
        exact named_leads records ranks plain stored member same shown.symm
  refine ⟨keeps, fun few => keeps_tiers_mono (fun hit least three shares => ?_) keeps⟩
  obtain ⟨-, count, -, enough, partly, -⟩ := shares
  omega

/-- Three keywords, of which the last is named but for its underscore. -/
def pointerKeywords : List Entry := [
  { name := "_MOUSEBUTTON", kind := .function, category := "input", description := "A button." },
  { name := "MOUSETRAP", kind := .statement, category := "input", description := "A trap." },
  { name := "_MOUSE", kind := .statement, category := "input", description := "The pointer." }]

theorem pointer_search_keeps_tiers :
    "Mouse".toList ≠ [] ∧ IsAscii "Mouse".toList ∧
    (∀ entry ∈ pointerKeywords, IsAscii entry.name.toList) ∧
    (Query.ofText "Mouse".toList).parts.length ≤ 3 ∧
    KeepsTiers (fun _ _ => False) (ofEntries pointerKeywords) "Mouse".toList 10 := by
  have asked : "Mouse".toList ≠ [] := by decide
  have plain : IsAscii "Mouse".toList := by decide
  have plain_names : ∀ entry ∈ pointerKeywords, IsAscii entry.name.toList := by decide
  have few : (Query.ofText "Mouse".toList).parts.length ≤ 3 := by decide
  exact ⟨asked, plain, plain_names, few,
    (search_keeps_tiers pointerKeywords "Mouse".toList 10 asked plain plain_names).2 few⟩

/-- A short name, and a name that repeats it. -/
def repeatedName : List Entry := [
  { name := "CLS", kind := .statement, category := "console", description := "Clears." },
  { name := "CLS_CLS_CLS_CLS_CLS_CLS_NEW", kind := .statement, category := "console",
    description := "Clears anew." }]

/-- Six of seven parts of the query stand in the short name, which comes before the exact match. -/
theorem repeated_name_breaks_tiers :
    IsAscii "CLS_CLS_CLS_CLS_CLS_CLS_NEW".toList ∧
    (∀ entry ∈ repeatedName, IsAscii entry.name.toList) ∧
    (((ofEntries repeatedName).search "CLS_CLS_CLS_CLS_CLS_CLS_NEW".toList 10).map
      fun hit => (hit.entry.name, hit.relevance, hit.kind)) =
        [("CLS", 110, .contains), ("CLS_CLS_CLS_CLS_CLS_CLS_NEW", 100, .exact)] ∧
    ¬ KeepsTiers (fun _ _ => False) (ofEntries repeatedName)
      "CLS_CLS_CLS_CLS_CLS_CLS_NEW".toList 10 := by
  have results : ((ofEntries repeatedName).search "CLS_CLS_CLS_CLS_CLS_CLS_NEW".toList 10).map
      (fun hit => (hit.entry.name, hit.relevance, hit.kind)) =
        [("CLS", 110, .contains), ("CLS_CLS_CLS_CLS_CLS_CLS_NEW", 100, .exact)] := by
    -- The matches stand in the order of the entries, and there is nothing to sort.
    change (cut 10 (List.mergeSort _ _)).map _ = _
    rw [List.mergeSort_of_pairwise (by decide +kernel)]
    decide +kernel
  refine ⟨by decide, by decide, results, fun keeps => ?_⟩
  obtain ⟨hit, member, shown⟩ := List.mem_map.mp (results ▸ List.mem_cons_self)
  obtain ⟨-, relevance, -⟩ : hit.entry.name = "CLS" ∧ hit.relevance = 110 ∧ hit.kind = .contains := by
    simpa using shown
  rcases (keeps.bounded hit member).2 with small | none
  · omega
  · exact none

end Catalog
end BasicBench.Keyword
