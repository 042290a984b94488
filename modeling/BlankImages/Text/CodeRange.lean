/-!
# Ranges of character codes
-/

namespace BlankImages

/-- The codes from `first` to `last`, both included. -/
abbrev CodeRange := Nat × Nat

namespace CodeRange

def holds (char : Char) (range : CodeRange) : Bool :=
  range.1 ≤ char.toNat && char.toNat ≤ range.2

def covers (blocks : List (List CodeRange)) (char : Char) : Bool :=
  blocks.any fun block => block.any (holds char)

end CodeRange

end BlankImages
