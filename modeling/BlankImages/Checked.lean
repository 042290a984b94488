import BlankImages.Fault

/-!
# Checked arithmetic on 64-bit words

Each operation gives the exact result on natural numbers, or the fault that
names the operation when that result is no word.
-/

namespace BlankImages

/-- The sizes, indices and labels of the library are 64-bit words. -/
abbrev Word := UInt64

namespace Checked

/-- How many words there are: two to the power of 64. -/
def wordCount : Nat := 0x10000000000000000

/-- The word with the given exact value, or `fault` when there is none. -/
def ofExact (value : Nat) (fault : Fault) : Except Fault Word :=
  if value < wordCount then .ok (UInt64.ofNat value) else .error fault

def add (left right : Word) : Except Fault Word :=
  ofExact (left.toNat + right.toNat) .addOverflow

def sub (left right : Word) : Except Fault Word :=
  if right ≤ left then .ok (left - right) else .error .subOverflow

def mul (left right : Word) : Except Fault Word :=
  ofExact (left.toNat * right.toNat) .mulOverflow

def div (left right : Word) : Except Fault Word :=
  if right = 0 then .error .divideByZero else .ok (left / right)

def mod (left right : Word) : Except Fault Word :=
  if right = 0 then .error .remainderByZero else .ok (left % right)

/-! ## When an operation returns -/

theorem ofExact_eq_ok_iff {value : Nat} {fault : Fault} {result : Word} :
    ofExact value fault = .ok result ↔ value = result.toNat := by
  unfold ofExact
  constructor
  · intro returned
    split at returned
    · cases returned
      rename_i small
      exact (UInt64.toNat_ofNat_of_lt' small).symm
    · cases returned
  · intro exactValue
    have small : value < wordCount := exactValue ▸ result.toNat_lt
    rw [if_pos small, exactValue, UInt64.ofNat_toNat]

theorem ofExact_eq_error_iff {value : Nat} {fault found : Fault} :
    ofExact value fault = .error found ↔ wordCount ≤ value ∧ found = fault := by
  unfold ofExact
  split
  · simp only [reduceCtorEq, false_iff, not_and]
    omega
  · simp only [Except.error.injEq]
    constructor
    · intro same
      exact ⟨by omega, same.symm⟩
    · intro both
      exact both.2.symm

theorem mul_eq_ok_iff {left right product : Word} :
    mul left right = .ok product ↔
      left.toNat * right.toNat = product.toNat :=
  ofExact_eq_ok_iff

theorem mul_eq_error_iff {left right : Word} {fault : Fault} :
    mul left right = .error fault ↔
      wordCount ≤ left.toNat * right.toNat ∧ fault = .mulOverflow :=
  ofExact_eq_error_iff

theorem one_mul (right : Word) : mul 1 right = .ok right :=
  mul_eq_ok_iff.mpr (Nat.one_mul right.toNat)

end Checked

end BlankImages
