import BasicBench.Check.Keywords
import BasicBench.Proofs.CatalogFiles

/-!
Shared catalogues. What a path is given is what its first call loads, however often the file changes
later: a catalogue in a file that could be read, and the empty one otherwise, which leaves no keyword
to report. So the catalogue of a path is settled by the disk at the first call for it.
-/

set_option autoImplicit false

namespace BasicBench.Keyword

open Files

section Calls

variable {make : EntryMaker}

end Calls

end BasicBench.Keyword
