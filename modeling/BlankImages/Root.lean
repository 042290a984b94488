import BlankImages.Text.Quoted

/-!
# Root paths

A path is a string of bytes and is kept as it is: it need not be UTF-8.
-/

namespace BlankImages

structure Root where
  bytes : List UInt8
  deriving DecidableEq, Repr

namespace Root

def ofString (text : String) : Root where
  bytes := text.toUTF8.toList

def replacement : Char := '\uFFFD'

def segmentChar : Utf8.Segment → Char
  | .scalar char => char
  | .broken _ => replacement

/-- The path for reading: characters as they are, and one replacement character
for each broken piece. -/
def text (root : Root) : String :=
  String.ofList ((Utf8.segments root.bytes).map segmentChar)

/-- The exact text, when the bytes encode one. -/
def text? (root : Root) : Option String :=
  if Utf8.isValid root.bytes then some root.text else none

def quoted (root : Root) : String :=
  Quoted.write root.bytes

end Root

end BlankImages
