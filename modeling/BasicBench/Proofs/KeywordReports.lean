import BasicBench.Proofs.HiddenText
import BasicBench.Proofs.KeywordShape
import BasicBench.Proofs.SearchTiers
import BasicBench.Proofs.TokenLayout

/-!
What is reported of the names in a program. A name that looks like a keyword leads to an entry, if
need be without its type marks, and then the entry decides what is said of it. A name that leads to
none is reported exactly when a search for it finds anything: none of the names that are found is
the one searched for, so all of the best five are offered.
-/

set_option autoImplicit false

namespace BasicBench

open Text Keyword

namespace Keyword.Catalog

/-! Searches with different limits. -/

section Offered

variable {added : List Entry} {catalog : Catalog} (records : Records added catalog)

include records

end Offered
end Keyword.Catalog

namespace Check

/-! Names and entries. -/

section Resolving

variable {catalog : Catalog} {name : Text}

end Resolving

/-! One name. -/

section Unknown

variable {added : List Entry} {catalog : Catalog} (records : Catalog.Records added catalog)

include records

end Unknown

/-! Programs. -/

/-- The names that are looked up: of a directive its first name and of other lines all of them, as
far as they look like keywords. -/
def namesLookedUp (line : SourceLine) : List Token :=
  (let names := (Token.ofLine line.text).filter fun token => token.kind = .name
   if ['$'] <+: line.trimmed then names.take 1 else names).filter
    fun token => looksLikeKeyword token.text

theorem names_looked_up_eq (line : SourceLine) :
    namesLookedUp line = (keywordTokens line).filter fun token => looksLikeKeyword token.text := by
  rw [namesLookedUp, keywordTokens]
  refine congrArg (List.filter fun token : Token => looksLikeKeyword token.text) ?_
  exact if_congr List.isPrefixOf_iff_prefix.symm rfl rfl

/-- The names that are looked up are written in capitals and worth a look. -/
theorem mem_names_looked_up_iff {source : Text} {line : SourceLine}
    (member : line ∈ SourceLine.ofText source) {token : Token} :
    token ∈ namesLookedUp line ↔ token ∈ keywordTokens line ∧
      ∃ mark core types, Capitalised token.text mark core types ∧ WorthALook mark core := by
  rw [names_looked_up_eq, List.mem_filter]
  refine and_congr_right fun listed => looks_like_keyword_iff ?_
  have read : token ∈ Token.ofLine line.text := by
    rw [keywordTokens] at listed
    split at listed
    · exact (List.mem_filter.mp (List.mem_of_mem_take listed)).1
    · exact (List.mem_filter.mp listed).1
  exact Token.unbroken_of_mem (SourceLine.no_feed_of_text member) read

end Check
end BasicBench
