/-!
# Record texts

A record has a compact text on one line, and a pretty one with a line for every
field.  A field is a text of its own or a slot that may be empty.
-/

namespace BlankImages

inductive FieldText where
  | plain (text : String)
  | slot (content : Option String)
  deriving DecidableEq, Repr

namespace FieldText

def compact : FieldText → String
  | plain text => text
  | slot none => "None"
  | slot (some content) => "Some(" ++ content ++ ")"

/-- A field among the lines of its record: the content of a slot stands on a
line of its own, one level deeper. -/
def pretty : FieldText → String
  | plain text => text
  | slot none => "None"
  | slot (some content) => "Some(\n        " ++ content ++ ",\n    )"

end FieldText

structure Record where
  name : String
  fields : List (String × FieldText)
  deriving DecidableEq, Repr

namespace Record

def compactFields : List (String × FieldText) → String
  | [] => ""
  | [(label, field)] => label ++ ": " ++ field.compact
  | (label, field) :: rest =>
      label ++ ": " ++ field.compact ++ ", " ++ compactFields rest

def prettyFields : List (String × FieldText) → String
  | [] => ""
  | (label, field) :: rest =>
      "    " ++ label ++ ": " ++ field.pretty ++ ",\n" ++ prettyFields rest

def compact (record : Record) : String :=
  record.name ++ " \x7b " ++ compactFields record.fields ++ " \x7d"

def pretty (record : Record) : String :=
  record.name ++ " \x7b\n" ++ prettyFields record.fields ++ "\x7d"

def number (label : String) (value : UInt64) : String × FieldText :=
  (label, .plain (toString value.toNat))

def flag (label : String) (value : Bool) : String × FieldText :=
  (label, .plain (if value then "true" else "false"))

end Record

end BlankImages
