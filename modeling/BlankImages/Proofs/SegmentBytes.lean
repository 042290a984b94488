import BlankImages.Text.Utf8
import Mathlib.Data.List.Forall2

/-!
# The bytes of segments

Reading a byte string as UTF-8 loses nothing: its segments, written one behind
the other, are the byte string.  For a broken piece this is plain, since it is
kept as it is.  A character is kept as its code, so what is shown here is that
the followers allowed behind a first byte leave just one way of encoding it:
there are no overlong encodings, no surrogates, and no codes past the last one.
-/

namespace BlankImages.Utf8

/-- A byte that goes on with a character. -/
def IsTail (byte : UInt8) : Prop :=
  0x80 ≤ byte.toNat ∧ byte.toNat ≤ 0xBF

/-- The encodings of characters, as a first byte and the bytes behind it.  The
second byte of a long encoding is bound further by the first. -/
inductive Encoding (lead : UInt8) : List UInt8 → Prop where
  | one (ascii : lead.toNat ≤ 0x7F) :
      Encoding lead []
  | two {second : UInt8}
      (least : 0xC2 ≤ lead.toNat) (greatest : lead.toNat ≤ 0xDF)
      (secondTail : IsTail second) :
      Encoding lead [second]
  | three {second third : UInt8}
      (least : 0xE0 ≤ lead.toNat) (greatest : lead.toNat ≤ 0xEF)
      (secondTail : IsTail second) (thirdTail : IsTail third)
      (notOverlong : lead.toNat = 0xE0 → 0xA0 ≤ second.toNat)
      (notSurrogate : lead.toNat = 0xED → second.toNat ≤ 0x9F) :
      Encoding lead [second, third]
  | four {second third fourth : UInt8}
      (least : 0xF0 ≤ lead.toNat) (greatest : lead.toNat ≤ 0xF4)
      (secondTail : IsTail second) (thirdTail : IsTail third)
      (fourthTail : IsTail fourth)
      (notOverlong : lead.toNat = 0xF0 → 0x90 ≤ second.toNat)
      (notPast : lead.toNat = 0xF4 → second.toNat ≤ 0x8F) :
      Encoding lead [second, third, fourth]

def Fits (ranges : List (UInt8 × UInt8)) (taken : List UInt8) : Prop :=
  List.Forall₂
    (fun range byte =>
      range.1.toNat ≤ byte.toNat ∧ byte.toNat ≤ range.2.toNat)
    ranges taken

theorem inside_iff {least greatest byte : UInt8} :
    least ≤ byte ∧ byte ≤ greatest ↔
      least.toNat ≤ byte.toNat ∧ byte.toNat ≤ greatest.toNat :=
  and_congr UInt8.le_iff_toNat_le UInt8.le_iff_toNat_le

theorem fits_of_fit
    (ranges : List (UInt8 × UInt8)) (bytes : List UInt8)
    (complete : (fit ranges bytes).2.1 = true) :
    Fits ranges (fit ranges bytes).1 := by
  induction ranges generalizing bytes with
  | nil =>
      exact List.Forall₂.nil
  | cons range ranges inductionHypothesis =>
      cases bytes with
      | nil =>
          simp [fit] at complete
      | cons byte rest =>
          by_cases inside : range.1 ≤ byte ∧ byte ≤ range.2
          · rw [fit, if_pos inside] at complete ⊢
            exact
              List.Forall₂.cons (inside_iff.mp inside)
                (inductionHypothesis rest complete)
          · rw [fit, if_neg inside] at complete
            simp at complete

theorem followers_eq (lead : UInt8) :
    followers lead =
      if lead.toNat ≤ 0x7F then some []
      else if lead.toNat < 0xC2 then none
      else if lead.toNat ≤ 0xDF then some [(0x80, 0xBF)]
      else if lead.toNat = 0xE0 then some [(0xA0, 0xBF), (0x80, 0xBF)]
      else if lead.toNat = 0xED then some [(0x80, 0x9F), (0x80, 0xBF)]
      else if lead.toNat ≤ 0xEF then some [(0x80, 0xBF), (0x80, 0xBF)]
      else if lead.toNat = 0xF0 then
        some [(0x90, 0xBF), (0x80, 0xBF), (0x80, 0xBF)]
      else if lead.toNat ≤ 0xF3 then
        some [(0x80, 0xBF), (0x80, 0xBF), (0x80, 0xBF)]
      else if lead.toNat = 0xF4 then
        some [(0x80, 0x8F), (0x80, 0xBF), (0x80, 0xBF)]
      else none := by
  simp only [followers, UInt8.le_iff_toNat_le, UInt8.lt_iff_toNat_lt,
    ← UInt8.toNat_inj, UInt8.reduceToNat]

theorem encoding_of_followers
    {lead : UInt8} {ranges : List (UInt8 × UInt8)} {taken : List UInt8}
    (starts : followers lead = some ranges) (fits : Fits ranges taken) :
    Encoding lead taken := by
  simp only [followers_eq, ite_eq_iff, reduceCtorEq, and_false, or_false,
    false_or, Option.some.injEq] at starts
  rcases starts with
    ⟨ascii, rfl⟩ |
      ⟨_, notEarly,
        ⟨two, rfl⟩ |
          ⟨notTwo,
            ⟨leastThree, rfl⟩ |
              ⟨notLeastThree,
                ⟨beforeSurrogates, rfl⟩ |
                  ⟨notBeforeSurrogates,
                    ⟨three, rfl⟩ |
                      ⟨notThree,
                        ⟨leastFour, rfl⟩ |
                          ⟨notLeastFour,
                            ⟨four, rfl⟩ |
                              ⟨_, greatestFour, rfl⟩⟩⟩⟩⟩⟩⟩
  · cases fits
    exact Encoding.one ascii
  · obtain _ | ⟨second, ⟨⟩⟩ := fits
    exact Encoding.two (by omega) two second
  · obtain _ | ⟨second, _ | ⟨third, ⟨⟩⟩⟩ := fits
    have secondTail : IsTail _ :=
      ⟨Nat.le_trans (by decide) second.1, second.2⟩
    exact
      Encoding.three (by omega) (by omega) secondTail third
        (fun _ => second.1) (by omega)
  · obtain _ | ⟨second, _ | ⟨third, ⟨⟩⟩⟩ := fits
    have secondTail : IsTail _ :=
      ⟨second.1, Nat.le_trans second.2 (by decide)⟩
    exact
      Encoding.three (by omega) (by omega) secondTail third
        (by omega) (fun _ => second.2)
  · obtain _ | ⟨second, _ | ⟨third, ⟨⟩⟩⟩ := fits
    exact
      Encoding.three (by omega) three second third (by omega) (by omega)
  · obtain _ | ⟨second, _ | ⟨third, _ | ⟨fourth, ⟨⟩⟩⟩⟩ := fits
    have secondTail : IsTail _ :=
      ⟨Nat.le_trans (by decide) second.1, second.2⟩
    exact
      Encoding.four (by omega) (by omega) secondTail third fourth
        (fun _ => second.1) (by omega)
  · obtain _ | ⟨second, _ | ⟨third, _ | ⟨fourth, ⟨⟩⟩⟩⟩ := fits
    exact
      Encoding.four (by omega) (by omega) second third fourth
        (by omega) (by omega)
  · obtain _ | ⟨second, _ | ⟨third, _ | ⟨fourth, ⟨⟩⟩⟩⟩ := fits
    have secondTail : IsTail _ :=
      ⟨second.1, Nat.le_trans second.2 (by decide)⟩
    exact
      Encoding.four (by omega) (by omega) secondTail third fourth
        (by omega) (fun _ => second.2)

/-! ## The code of an encoding, as a sum -/

theorem leadValue_eq (lead : UInt8) :
    leadValue lead =
      if lead.toNat < 0x80 then lead.toNat
      else if lead.toNat < 0xE0 then lead.toNat - 0xC0
      else if lead.toNat < 0xF0 then lead.toNat - 0xE0
      else lead.toNat - 0xF0 := by
  simp only [leadValue, UInt8.lt_iff_toNat_lt, UInt8.reduceToNat]

theorem code_one {lead : UInt8} (ascii : lead.toNat ≤ 0x7F) :
    code lead [] = lead.toNat := by
  simp only [code, List.foldl_nil, leadValue_eq]
  rw [if_pos (by omega)]

theorem code_two {lead : UInt8} (second : UInt8)
    (least : 0xC2 ≤ lead.toNat) (greatest : lead.toNat ≤ 0xDF) :
    code lead [second] =
      (lead.toNat - 0xC0) * 64 + (second.toNat - 0x80) := by
  simp only [code, List.foldl_cons, List.foldl_nil, leadValue_eq]
  rw [if_neg (by omega), if_pos (by omega)]

theorem code_three {lead : UInt8} (second third : UInt8)
    (least : 0xE0 ≤ lead.toNat) (greatest : lead.toNat ≤ 0xEF) :
    code lead [second, third] =
      (lead.toNat - 0xE0) * 4096 + (second.toNat - 0x80) * 64 +
        (third.toNat - 0x80) := by
  simp only [code, List.foldl_cons, List.foldl_nil, leadValue_eq]
  rw [if_neg (by omega), if_neg (by omega), if_pos (by omega)]
  omega

theorem code_four {lead : UInt8} (second third fourth : UInt8)
    (least : 0xF0 ≤ lead.toNat) :
    code lead [second, third, fourth] =
      (lead.toNat - 0xF0) * 262144 + (second.toNat - 0x80) * 4096 +
        (third.toNat - 0x80) * 64 + (fourth.toNat - 0x80) := by
  simp only [code, List.foldl_cons, List.foldl_nil, leadValue_eq]
  rw [if_neg (by omega), if_neg (by omega), if_neg (by omega)]
  omega

/-! ## Encodings and characters -/

theorem isValidChar_code {lead : UInt8} {taken : List UInt8}
    (encoding : Encoding lead taken) :
    (code lead taken).isValidChar := by
  unfold Nat.isValidChar
  cases encoding with
  | one ascii =>
      rw [code_one ascii]
      omega
  | @two second least greatest secondTail =>
      obtain ⟨low, high⟩ := secondTail
      rw [code_two second least greatest]
      omega
  | @three second third least greatest secondTail thirdTail _
      notSurrogate =>
      obtain ⟨low, high⟩ := secondTail
      obtain ⟨thirdLow, thirdHigh⟩ := thirdTail
      rw [code_three second third least greatest]
      omega
  | @four second third fourth least greatest secondTail thirdTail fourthTail
      notOverlong notPast =>
      obtain ⟨low, high⟩ := secondTail
      obtain ⟨thirdLow, thirdHigh⟩ := thirdTail
      obtain ⟨fourthLow, fourthHigh⟩ := fourthTail
      rw [code_four second third fourth least]
      omega

theorem toNat_val_ofNat_code {lead : UInt8} {taken : List UInt8}
    (encoding : Encoding lead taken) :
    (Char.ofNat (code lead taken)).val.toNat = code lead taken := by
  rw [Char.ofNat, dif_pos (isValidChar_code encoding)]
  rfl

theorem ofNat_eq_of_eq_toNat {value : Nat} (byte : UInt8)
    (same : value = byte.toNat) :
    UInt8.ofNat value = byte := by
  rw [same, UInt8.ofNat_toNat]

theorem utf8EncodeChar_code {lead : UInt8} {taken : List UInt8}
    (encoding : Encoding lead taken) :
    String.utf8EncodeChar (Char.ofNat (code lead taken)) = lead :: taken := by
  unfold String.utf8EncodeChar
  rw [toNat_val_ofNat_code encoding]
  -- The bounds of the second byte decide how many bytes are written; each of
  -- them is then a digit of the code in base sixty-four.
  cases encoding with
  | one ascii =>
      rw [code_one ascii]
      dsimp only
      rw [if_pos ascii, UInt8.ofNat_toNat]
  | @two second least greatest secondTail =>
      obtain ⟨low, high⟩ := secondTail
      rw [code_two second least greatest]
      dsimp only
      rw [if_neg (by omega), if_pos (by omega),
        ofNat_eq_of_eq_toNat lead (by omega),
        ofNat_eq_of_eq_toNat second (by omega)]
  | @three second third least greatest secondTail thirdTail notOverlong _ =>
      obtain ⟨low, high⟩ := secondTail
      obtain ⟨thirdLow, thirdHigh⟩ := thirdTail
      rw [code_three second third least greatest]
      dsimp only
      rw [if_neg (by omega), if_neg (by omega), if_pos (by omega),
        ofNat_eq_of_eq_toNat lead (by omega),
        ofNat_eq_of_eq_toNat second (by omega),
        ofNat_eq_of_eq_toNat third (by omega)]
  | @four second third fourth least greatest secondTail thirdTail fourthTail
      notOverlong notPast =>
      obtain ⟨low, high⟩ := secondTail
      obtain ⟨thirdLow, thirdHigh⟩ := thirdTail
      obtain ⟨fourthLow, fourthHigh⟩ := fourthTail
      rw [code_four second third fourth least]
      dsimp only
      rw [if_neg (by omega), if_neg (by omega), if_neg (by omega),
        ofNat_eq_of_eq_toNat lead (by omega),
        ofNat_eq_of_eq_toNat second (by omega),
        ofNat_eq_of_eq_toNat third (by omega),
        ofNat_eq_of_eq_toNat fourth (by omega)]

/-! ## Segments -/

theorem bytes_head_append (lead : UInt8) (rest : List UInt8) :
    (head lead rest).1.bytes ++ (head lead rest).2 = lead :: rest := by
  unfold head
  cases starts : followers lead with
  | none =>
      rfl
  | some ranges =>
      have whole := fit_append ranges rest
      have fits := fits_of_fit ranges rest
      dsimp only
      generalize fit ranges rest = fitted at whole fits ⊢
      obtain ⟨taken, complete, after⟩ := fitted
      cases complete with
      | false =>
          exact congrArg (lead :: ·) whole
      | true =>
          have encoding := encoding_of_followers starts (fits rfl)
          change
            String.utf8EncodeChar (Char.ofNat (code lead taken)) ++ after =
              lead :: rest
          rw [utf8EncodeChar_code encoding]
          exact congrArg (lead :: ·) whole

theorem flatMap_bytes_segments (bytes : List UInt8) :
    (segments bytes).flatMap Segment.bytes = bytes := by
  fun_induction segments bytes with
  | case1 =>
      rfl
  | case2 lead rest found inductionHypothesis =>
      rw [List.flatMap_cons, inductionHypothesis]
      exact bytes_head_append lead rest

end BlankImages.Utf8
