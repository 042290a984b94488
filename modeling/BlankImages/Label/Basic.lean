import BlankImages.Checked
import BlankImages.Text.Record

/-!
# Labels and the error of looking one up
-/

namespace BlankImages

/-- The number of a class. -/
abbrev Label := Word

/-- A label was looked up in a table of `max` names, where it has no entry. -/
structure LabelError where
  found : Label
  max : Word
  deriving DecidableEq, Repr

namespace LabelError

def sentence (error : LabelError) : String :=
  "label " ++ toString error.found.toNat ++ " is out of range for " ++
    toString error.max.toNat ++ " classes"

def record (error : LabelError) : Record where
  name := "LabelOrdinalError"
  fields :=
    [ Record.number "found" error.found,
      Record.number "max" error.max ]

end LabelError

end BlankImages
