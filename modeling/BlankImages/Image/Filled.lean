/-!
# Uniform blocks

A block is kept as its value and its size, so that a large one costs nothing.
-/

namespace BlankImages

/-- A block of `size` entries, each equal to `value`. -/
structure Filled (α : Type) where
  value : α
  size : Nat
  deriving DecidableEq, Repr

namespace Filled

variable {α : Type}

def toList (block : Filled α) : List α :=
  List.replicate block.size block.value

def all (block : Filled α) (test : α → Bool) : Bool :=
  block.size == 0 || test block.value

@[simp]
theorem length_toList (block : Filled α) : block.toList.length = block.size := by
  simp [toList]

end Filled

end BlankImages
