import BasicBench.Keyword.Catalog
import BasicBench.Keyword.Functions
import BasicBench.Keyword.Graphics
import BasicBench.Keyword.Legacy
import BasicBench.Keyword.Metacommands
import BasicBench.Keyword.Statements

/-!
The catalogue that is used when no other one is given.
-/

set_option autoImplicit false

namespace BasicBench.Keyword

def Catalog.builtin : Catalog :=
  .ofEntries (statements ++ functions ++ metacommands ++ graphics ++ legacy)

end BasicBench.Keyword
