/-!
# Faults

The reasons why a computation of this library ends without a value.
-/

namespace BlankImages

inductive Fault where
  | addOverflow
  | subOverflow
  | mulOverflow
  | divideByZero
  | remainderByZero
  | indexOutOfBounds (size index : Nat)
  | emptyRange
  | bufferTooLong
  | capacityOverflow
  | outOfMemory
  /-- Raised on purpose by a caller's function, with a text of its choice. -/
  | raised (text : String)
  deriving DecidableEq, Repr

namespace Fault

def message : Fault → String
  | addOverflow => "attempt to add with overflow"
  | subOverflow => "attempt to subtract with overflow"
  | mulOverflow => "attempt to multiply with overflow"
  | divideByZero => "attempt to divide by zero"
  | remainderByZero => "attempt to calculate the remainder with a divisor of zero"
  | indexOutOfBounds size index =>
      "index out of bounds: the len is " ++ toString size ++
        " but the index is " ++ toString index
  | emptyRange => "cannot sample empty range"
  | bufferTooLong => "Buffer length in `ImageBuffer::new` overflows usize"
  | capacityOverflow => "capacity overflow"
  | outOfMemory => "called `Result::unwrap()` on an `Err` value: OutOfMemory"
  | raised text => text

end Fault

instance decidableEqOutcome {α : Type} [DecidableEq α] :
    DecidableEq (Except Fault α)
  | .ok left, .ok right =>
      if same : left = right then isTrue (same ▸ rfl)
      else isFalse fun equal => same (Except.ok.inj equal)
  | .error left, .error right =>
      if same : left = right then isTrue (same ▸ rfl)
      else isFalse fun equal => same (Except.error.inj equal)
  | .ok _, .error _ => isFalse nofun
  | .error _, .ok _ => isFalse nofun

end BlankImages
