/-!
# Hexadecimal digits
-/

namespace BlankImages.Hex

/-- The digits of a number, without leading zeros, in lower case. -/
def digits (value : Nat) : List Char :=
  Nat.toDigits 16 value

def lower (byte : UInt8) : List Char :=
  [Nat.digitChar (byte.toNat / 16), Nat.digitChar (byte.toNat % 16)]

def upper (byte : UInt8) : List Char :=
  (lower byte).map Char.toUpper

def value? (char : Char) : Option Nat :=
  if '0' ≤ char ∧ char ≤ '9' then some (char.toNat - '0'.toNat)
  else if 'a' ≤ char ∧ char ≤ 'f' then some (char.toNat - 'a'.toNat + 10)
  else if 'A' ≤ char ∧ char ≤ 'F' then some (char.toNat - 'A'.toNat + 10)
  else none

def write (bytes : List UInt8) : String :=
  String.ofList (bytes.flatMap lower)

def read? : List Char → Option (List UInt8)
  | [] => some []
  | [_] => none
  | high :: low :: rest => do
      let highValue ← value? high
      let lowValue ← value? low
      let bytes ← read? rest
      return UInt8.ofNat (highValue * 16 + lowValue) :: bytes

theorem value?_digitChar :
    ∀ digit < 16, value? (Nat.digitChar digit) = some digit := by
  decide

end BlankImages.Hex
