/-!
# Byte strings read as UTF-8

A byte string is cut into characters and broken pieces.  A broken piece is as
long as it can be while some character still starts with it; a byte with which
no character starts is a piece of its own.
-/

namespace BlankImages.Utf8

inductive Segment where
  /-- A character in its encoding. -/
  | scalar (char : Char)
  /-- Bytes that encode no character. -/
  | broken (bytes : List UInt8)
  deriving DecidableEq, Repr

namespace Segment

def bytes : Segment → List UInt8
  | scalar char => String.utf8EncodeChar char
  | broken bytes => bytes

def isScalar : Segment → Bool
  | scalar _ => true
  | broken _ => false

end Segment

/-- The bytes that may follow the first byte of a character, each given by its
least and its greatest value.  There is no answer for a byte with which no
character starts. -/
def followers (lead : UInt8) : Option (List (UInt8 × UInt8)) :=
  if lead ≤ 0x7F then some []
  else if lead < 0xC2 then none
  else if lead ≤ 0xDF then some [(0x80, 0xBF)]
  else if lead = 0xE0 then some [(0xA0, 0xBF), (0x80, 0xBF)]
  else if lead = 0xED then some [(0x80, 0x9F), (0x80, 0xBF)]
  else if lead ≤ 0xEF then some [(0x80, 0xBF), (0x80, 0xBF)]
  else if lead = 0xF0 then some [(0x90, 0xBF), (0x80, 0xBF), (0x80, 0xBF)]
  else if lead ≤ 0xF3 then some [(0x80, 0xBF), (0x80, 0xBF), (0x80, 0xBF)]
  else if lead = 0xF4 then some [(0x80, 0x8F), (0x80, 0xBF), (0x80, 0xBF)]
  else none

/-- The longest start of a byte string that fits the ranges one by one, whether
it fits all of them, and the bytes behind it. -/
def fit : List (UInt8 × UInt8) → List UInt8 → List UInt8 × Bool × List UInt8
  | [], rest => ([], true, rest)
  | _ :: _, [] => ([], false, [])
  | (least, greatest) :: ranges, byte :: rest =>
      if least ≤ byte ∧ byte ≤ greatest then
        let (taken, complete, after) := fit ranges rest
        (byte :: taken, complete, after)
      else
        ([], false, byte :: rest)

def leadValue (lead : UInt8) : Nat :=
  if lead < 0x80 then lead.toNat
  else if lead < 0xE0 then lead.toNat - 0xC0
  else if lead < 0xF0 then lead.toNat - 0xE0
  else lead.toNat - 0xF0

/-- The code of the character with a first byte and its followers, each of
which carries six bits. -/
def code (lead : UInt8) (taken : List UInt8) : Nat :=
  taken.foldl (fun value byte => value * 64 + (byte.toNat - 0x80)) (leadValue lead)

/-- The first segment of a byte string that is not empty, and the bytes behind
it. -/
def head (lead : UInt8) (rest : List UInt8) : Segment × List UInt8 :=
  match followers lead with
  | none => (.broken [lead], rest)
  | some ranges =>
      match fit ranges rest with
      | (taken, true, after) => (.scalar (Char.ofNat (code lead taken)), after)
      | (taken, false, after) => (.broken (lead :: taken), after)

theorem fit_append (ranges : List (UInt8 × UInt8)) (bytes : List UInt8) :
    (fit ranges bytes).1 ++ (fit ranges bytes).2.2 = bytes := by
  fun_induction fit ranges bytes with
  | case1 =>
      rfl
  | case2 =>
      rfl
  | case3 least greatest ranges byte rest inside taken complete after fitted
      inductionHypothesis =>
      rw [fitted] at inductionHypothesis
      exact congrArg (byte :: ·) inductionHypothesis
  | case4 =>
      rfl

/-- A segment takes at least its first byte. -/
theorem length_head_le (lead : UInt8) (rest : List UInt8) :
    (head lead rest).2.length ≤ rest.length := by
  unfold head
  cases followers lead with
  | none =>
      exact Nat.le_refl _
  | some ranges =>
      have whole := congrArg List.length (fit_append ranges rest)
      rw [List.length_append] at whole
      dsimp only
      generalize fit ranges rest = fitted at whole ⊢
      obtain ⟨taken, complete, after⟩ := fitted
      have shorter : after.length ≤ rest.length :=
        Nat.le.intro ((Nat.add_comm _ _).trans whole)
      cases complete with
      | true =>
          exact shorter
      | false =>
          exact shorter

def segments : List UInt8 → List Segment
  | [] => []
  | lead :: rest =>
      let found := head lead rest
      found.1 :: segments found.2
termination_by bytes => bytes.length
decreasing_by
  exact Nat.lt_succ_of_le (length_head_le lead rest)

def isValid (bytes : List UInt8) : Bool :=
  (segments bytes).all Segment.isScalar

def encode (chars : List Char) : List UInt8 :=
  chars.flatMap String.utf8EncodeChar

end BlankImages.Utf8
