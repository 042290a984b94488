import BlankImages.Dataset.Access

/-!
# Both ways of looking up a label, side by side
-/

namespace BlankImages

structure Naming where
  name : Except Fault String
  name? : Except LabelError String

namespace LabelTable

def naming (table : LabelTable) (label : Label) : Naming where
  name := table.name label
  name? := table.name? label

/-- Look up the labels of accesses.  An access that ended in a fault has no
label to look up. -/
def namings (table : LabelTable) (accesses : List Access) : List Naming :=
  accesses.filterMap fun access =>
    access.sample?.map fun sample => table.naming sample.label

end LabelTable

end BlankImages
