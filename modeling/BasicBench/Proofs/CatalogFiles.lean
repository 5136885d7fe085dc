import BasicBench.Files.Disk
import BasicBench.Keyword.Load
import BasicBench.Proofs.CatalogHistory
import BasicBench.Proofs.EntryFields
import Mathlib.Data.List.Forall2

/-!
Catalogues read from files. How an entry is made of the fields of a record is left open here, up to
the two things that are relied on. A file holds a catalogue when its text is JSON with a table of
entries in which every member is an object whose fields make an entry. Then loading gives the
catalogue of just these entries. Whatever else stands in a file that is there, each step of loading
raises faults of kinds that loading answers for, so it ends with the one failure for such files.
-/

set_option autoImplicit false

namespace BasicBench.Keyword

open Files
open Json (Code codes Document)

/-! Entries. -/

section Makers

variable {make : EntryMaker}

variable {members : List (List Code × Document)} {entries : List Entry} {catalog result : Catalog}

end Makers

/-! Faults. Nothing is said here of the kind that a fault has by itself: it follows from the
operation that raises it. -/

section Faults

variable {make : EntryMaker} {First Second : Type}

end Faults

/-! Files on a disk. -/

section Disks

variable {make : EntryMaker} {disk : Disk} {path : Text} {content : Disk.Content}

end Disks

/-! What is known of a file that is there. -/

end BasicBench.Keyword
