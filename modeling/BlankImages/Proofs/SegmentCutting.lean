import BlankImages.Proofs.SegmentBytes

/-!
# Where a byte string is cut

The segments of a byte string are said in terms of the encodings of characters
alone.  Where the encoding of a character stands, it is a segment.  Where none
stands, the segment is broken: it takes the longest start of an encoding that
stands there, or one byte.  There is just one way to cut a byte string so, and it
is the one in which the segments are found.  A byte string is valid when it is
the encoding of some text.
-/

namespace BlankImages.Utf8

/-! ## Encodings stand where they are read -/

theorem isTail_ofNat (value : Nat) :
    IsTail (UInt8.ofNat (value % 0x40 + 0x80)) ∧
      (UInt8.ofNat (value % 0x40 + 0x80)).toNat = value % 0x40 + 0x80 := by
  have exactly : (UInt8.ofNat (value % 0x40 + 0x80)).toNat = value % 0x40 + 0x80 :=
    UInt8.toNat_ofNat_of_lt' (show value % 0x40 + 0x80 < 256 by omega)
  refine ⟨?_, exactly⟩
  unfold IsTail
  omega

/-- Every character is written by an encoding, from which its code is read. -/
theorem exists_encoding (char : Char) :
    ∃ lead taken, String.utf8EncodeChar char = lead :: taken ∧
      Encoding lead taken ∧ code lead taken = char.toNat := by
  have valid : char.val.toNat.isValidChar := char.valid
  unfold String.utf8EncodeChar
  change ∃ lead taken, _ ∧ _ ∧ code lead taken = char.val.toNat
  generalize char.val.toNat = value at valid ⊢
  unfold Nat.isValidChar at valid
  dsimp only
  obtain ⟨lastTail, last⟩ := isTail_ofNat value
  obtain ⟨middleTail, middle⟩ := isTail_ofNat (value / 64)
  obtain ⟨upperTail, upper⟩ := isTail_ofNat (value / 4096)
  by_cases one : value ≤ 0x7F
  · have lead := UInt8.toNat_ofNat_of_lt' (show value < 256 by omega)
    refine ⟨_, _, if_pos one, Encoding.one (by omega), ?_⟩
    rw [code_one (by omega), lead]
  rw [if_neg one]
  by_cases two : value ≤ 0x7FF
  · have lead :=
      UInt8.toNat_ofNat_of_lt' (show value / 64 % 0x20 + 0xC0 < 256 by omega)
    refine
      ⟨_, _, if_pos two, Encoding.two (by omega) (by omega) lastTail, ?_⟩
    rw [code_two _ (by omega) (by omega), lead, last]
    omega
  rw [if_neg two]
  by_cases three : value ≤ 0xFFFF
  · have lead :=
      UInt8.toNat_ofNat_of_lt' (show value / 4096 % 0x10 + 0xE0 < 256 by omega)
    refine
      ⟨_, _, if_pos three,
        Encoding.three (by omega) (by omega) middleTail lastTail (by omega)
          (by omega), ?_⟩
    rw [code_three _ _ (by omega) (by omega), lead, middle, last]
    omega
  · have lead :=
      UInt8.toNat_ofNat_of_lt' (show value / 262144 % 0x08 + 0xF0 < 256 by omega)
    refine
      ⟨_, _, if_neg three,
        Encoding.four (by omega) (by omega) upperTail middleTail lastTail
          (by omega) (by omega), ?_⟩
    rw [code_four _ _ _ (by omega), lead, upper, middle, last]
    omega

/-- The bytes behind the first byte of an encoding are those that may follow
it. -/
theorem exists_followers {lead : UInt8} {taken : List UInt8}
    (encoding : Encoding lead taken) :
    ∃ ranges, followers lead = some ranges ∧ Fits ranges taken := by
  rw [followers_eq]
  cases encoding with
  | one ascii =>
      exact ⟨_, if_pos ascii, List.Forall₂.nil⟩
  | two least greatest secondTail =>
      rw [if_neg (by omega), if_neg (by omega)]
      exact
        ⟨_, if_pos greatest, List.Forall₂.cons secondTail List.Forall₂.nil⟩
  | @three second third least greatest secondTail thirdTail notOverlong
      notSurrogate =>
      rw [if_neg (by omega), if_neg (by omega), if_neg (by omega)]
      have thirdFits : Fits [(0x80, 0xBF)] [third] :=
        List.Forall₂.cons thirdTail List.Forall₂.nil
      by_cases first : lead.toNat = 0xE0
      · exact
          ⟨_, if_pos first,
            List.Forall₂.cons ⟨notOverlong first, secondTail.2⟩ thirdFits⟩
      rw [if_neg first]
      by_cases surrogates : lead.toNat = 0xED
      · exact
          ⟨_, if_pos surrogates,
            List.Forall₂.cons ⟨secondTail.1, notSurrogate surrogates⟩ thirdFits⟩
      · rw [if_neg surrogates]
        exact ⟨_, if_pos greatest, List.Forall₂.cons secondTail thirdFits⟩
  | @four second third fourth least greatest secondTail thirdTail fourthTail
      notOverlong notPast =>
      rw [if_neg (by omega), if_neg (by omega), if_neg (by omega),
        if_neg (by omega), if_neg (by omega), if_neg (by omega)]
      have thirdFits : Fits [(0x80, 0xBF), (0x80, 0xBF)] [third, fourth] :=
        List.Forall₂.cons thirdTail
          (List.Forall₂.cons fourthTail List.Forall₂.nil)
      by_cases first : lead.toNat = 0xF0
      · exact
          ⟨_, if_pos first,
            List.Forall₂.cons ⟨notOverlong first, secondTail.2⟩ thirdFits⟩
      rw [if_neg first]
      by_cases beforeLast : lead.toNat ≤ 0xF3
      · exact ⟨_, if_pos beforeLast, List.Forall₂.cons secondTail thirdFits⟩
      · have last : lead.toNat = 0xF4 := by
          omega
        rw [if_neg beforeLast]
        exact
          ⟨_, if_pos last,
            List.Forall₂.cons ⟨secondTail.1, notPast last⟩ thirdFits⟩

/-! ## Characters are found -/

theorem fit_of_fits {ranges : List (UInt8 × UInt8)} {taken : List UInt8}
    (fits : Fits ranges taken) (rest : List UInt8) :
    fit ranges (taken ++ rest) = (taken, true, rest) := by
  induction fits with
  | nil =>
      rfl
  | @cons range byte ranges taken bounds fits inductionHypothesis =>
      rw [List.cons_append, fit, if_pos (inside_iff.mpr bounds),
        inductionHypothesis]

theorem segments_char_append (char : Char) (rest : List UInt8) :
    segments (String.utf8EncodeChar char ++ rest) =
      .scalar char :: segments rest := by
  obtain ⟨lead, taken, written, encoding, codeEq⟩ := exists_encoding char
  obtain ⟨ranges, starts, fits⟩ := exists_followers encoding
  have found : head lead (taken ++ rest) = (.scalar char, rest) := by
    simp only [head, starts, fit_of_fits fits]
    rw [codeEq, Char.ofNat_toNat]
  rw [written, List.cons_append, segments, found]

theorem segments_encode (chars : List Char) :
    segments (encode chars) = chars.map .scalar := by
  induction chars with
  | nil =>
      rw [List.map_nil, encode, List.flatMap_nil, segments]
  | cons char rest inductionHypothesis =>
      rw [encode, List.flatMap_cons, segments_char_append, List.map_cons]
      exact congrArg (Segment.scalar char :: ·) inductionHypothesis

theorem isValid_encode (chars : List Char) : isValid (encode chars) = true := by
  rw [isValid, segments_encode, List.all_map]
  exact List.all_eq_true.mpr fun _ _ => rfl

/-! ## Broken pieces are as long as they can be -/

/-- Bytes with which the encoding of some character starts. -/
def Begins (bytes : List UInt8) : Prop :=
  ∃ char, bytes <+: String.utf8EncodeChar char

/-- A broken piece, with the bytes behind it: no character stands where it
starts, and it is the longest start of an encoding that stands there, or one
byte when there is none. -/
structure Breaks (piece behind : List UInt8) : Prop where
  nonempty : piece ≠ []
  noChar : ∀ char, ¬ String.utf8EncodeChar char <+: piece ++ behind
  begins : piece.length = 1 ∨ Begins piece
  longest :
    ∀ longer, longer <+: piece ++ behind → Begins longer →
      longer.length ≤ piece.length

/-- The start of an encoding is a first byte with some of the bytes that may
follow it. -/
theorem exists_followers_of_begins {lead : UInt8} {start : List UInt8}
    (begins : Begins (lead :: start)) :
    ∃ ranges full, followers lead = some ranges ∧ Fits ranges full ∧
      start <+: full := by
  obtain ⟨char, startsChar⟩ := begins
  obtain ⟨first, full, written, encoding, _⟩ := exists_encoding char
  rw [written, List.cons_prefix_cons] at startsChar
  obtain ⟨rfl, startsFull⟩ := startsChar
  obtain ⟨ranges, starts, fits⟩ := exists_followers encoding
  exact ⟨ranges, full, starts, fits, startsFull⟩

/-- Fitting goes on as long as some bytes that fit all ranges go on alike. -/
theorem length_le_fit {ranges : List (UInt8 × UInt8)}
    {full start bytes : List UInt8} (fits : Fits ranges full)
    (startsFull : start <+: full) (startsBytes : start <+: bytes) :
    start.length ≤ (fit ranges bytes).1.length := by
  induction fits generalizing start bytes with
  | nil =>
      rw [List.prefix_nil.mp startsFull]
      exact Nat.zero_le _
  | @cons range byte ranges full bounds fits inductionHypothesis =>
      cases start with
      | nil =>
          exact Nat.zero_le _
      | cons first start =>
          obtain ⟨rest, rfl⟩ := startsBytes
          obtain ⟨rfl, startsRest⟩ := List.cons_prefix_cons.mp startsFull
          rw [List.cons_append, fit, if_pos (inside_iff.mpr bounds)]
          exact
            Nat.succ_le_succ
              (inductionHypothesis startsRest (List.prefix_append start rest))

theorem least_le_greatest {lead : UInt8} {ranges : List (UInt8 × UInt8)}
    (starts : followers lead = some ranges) :
    ∀ range ∈ ranges, range.1.toNat ≤ range.2.toNat := by
  revert starts
  fun_cases followers lead
  all_goals
    rintro ⟨⟩
  all_goals
    simp

theorem fits_least {ranges : List (UInt8 × UInt8)}
    (ordered : ∀ range ∈ ranges, range.1.toNat ≤ range.2.toNat) :
    Fits ranges (ranges.map Prod.fst) := by
  rw [Fits, List.forall₂_map_right_iff, List.forall₂_same]
  intro range member
  exact ⟨Nat.le_refl _, ordered range member⟩

/-- What has been fitted can be filled up so that it fits all ranges. -/
theorem exists_filling {ranges : List (UInt8 × UInt8)}
    (ordered : ∀ range ∈ ranges, range.1.toNat ≤ range.2.toNat)
    (bytes : List UInt8) :
    ∃ filling, Fits ranges ((fit ranges bytes).1 ++ filling) := by
  induction ranges generalizing bytes with
  | nil =>
      exact ⟨[], List.Forall₂.nil⟩
  | cons range ranges inductionHypothesis =>
      cases bytes with
      | nil =>
          exact ⟨_, fits_least ordered⟩
      | cons byte rest =>
          by_cases inside : range.1 ≤ byte ∧ byte ≤ range.2
          · obtain ⟨_, othersOrdered⟩ := List.forall_mem_cons.mp ordered
            obtain ⟨filling, fits⟩ := inductionHypothesis othersOrdered rest
            rw [fit, if_pos inside]
            exact ⟨filling, List.Forall₂.cons (inside_iff.mp inside) fits⟩
          · rw [fit, if_neg inside]
            exact ⟨_, fits_least ordered⟩

/-- A byte with which no character starts is a piece of its own. -/
theorem breaks_of_no_followers {lead : UInt8} (starts : followers lead = none)
    (behind : List UInt8) : Breaks [lead] behind := by
  have notBegins (start : List UInt8) : ¬ Begins (lead :: start) := by
    intro begins
    obtain ⟨ranges, _, known, _⟩ := exists_followers_of_begins begins
    rw [starts] at known
    cases known
  refine ⟨List.cons_ne_nil lead [], ?_, Or.inl rfl, ?_⟩
  · intro char stands
    obtain ⟨first, taken, written, _⟩ := exists_encoding char
    rw [written] at stands
    obtain ⟨rfl, _⟩ := List.cons_prefix_cons.mp stands
    exact notBegins taken ⟨char, written ▸ List.prefix_refl _⟩
  · intro longer stands begins
    cases longer with
    | nil =>
        exact Nat.zero_le _
    | cons first start =>
        obtain ⟨rfl, _⟩ := List.cons_prefix_cons.mp stands
        exact absurd begins (notBegins start)

/-- A first byte with the bytes that fit behind it, where some byte is missing,
is a broken piece. -/
theorem breaks_of_fit {lead : UInt8} {ranges : List (UInt8 × UInt8)}
    {rest taken behind : List UInt8} (starts : followers lead = some ranges)
    (fitted : fit ranges rest = (taken, false, behind)) :
    Breaks (lead :: taken) behind := by
  have whole := fit_append ranges rest
  rw [fitted] at whole
  change taken ++ behind = rest at whole
  refine ⟨List.cons_ne_nil lead taken, ?_, Or.inr ?_, ?_⟩
  · intro char stands
    obtain ⟨first, full, written, encoding, _⟩ := exists_encoding char
    rw [written, List.cons_append, whole] at stands
    obtain ⟨rfl, more, fullStands⟩ := List.cons_prefix_cons.mp stands
    obtain ⟨_, known, fits⟩ := exists_followers encoding
    rw [starts] at known
    cases known
    rw [← fullStands, fit_of_fits fits] at fitted
    cases fitted
  · obtain ⟨filling, fits⟩ := exists_filling (least_le_greatest starts) rest
    rw [fitted] at fits
    have encoding := encoding_of_followers starts fits
    refine ⟨Char.ofNat (code lead (taken ++ filling)), ?_⟩
    rw [utf8EncodeChar_code encoding]
    exact List.prefix_append (lead :: taken) filling
  · intro longer stands begins
    cases longer with
    | nil =>
        exact Nat.zero_le _
    | cons first start =>
        rw [List.cons_append, whole] at stands
        obtain ⟨rfl, startStands⟩ := List.cons_prefix_cons.mp stands
        obtain ⟨_, full, known, fits, startsFull⟩ :=
          exists_followers_of_begins begins
        rw [starts] at known
        cases known
        have bound := length_le_fit fits startsFull startStands
        rw [fitted] at bound
        exact Nat.succ_le_succ bound

theorem breaks_of_head {lead : UInt8} {rest piece behind : List UInt8}
    (found : head lead rest = (.broken piece, behind)) :
    Breaks piece behind := by
  unfold head at found
  cases starts : followers lead with
  | none =>
      simp only [starts] at found
      cases found
      exact breaks_of_no_followers starts rest
  | some ranges =>
      cases fitted : fit ranges rest with
      | mk taken others =>
          obtain ⟨complete, after⟩ := others
          cases complete with
          | true =>
              simp only [starts, fitted] at found
              cases found
          | false =>
              simp only [starts, fitted] at found
              cases found
              exact breaks_of_fit starts fitted

/-! ## The one way to cut -/

inductive Cut : List UInt8 → List Segment → Prop where
  | nil : Cut [] []
  | scalar (char : Char) {rest : List UInt8} {segments : List Segment}
      (behind : Cut rest segments) :
      Cut (String.utf8EncodeChar char ++ rest) (.scalar char :: segments)
  | broken {piece rest : List UInt8} {segments : List Segment}
      (breaks : Breaks piece rest) (behind : Cut rest segments) :
      Cut (piece ++ rest) (.broken piece :: segments)

theorem cut_segments (bytes : List UInt8) : Cut bytes (segments bytes) := by
  fun_induction segments bytes with
  | case1 =>
      exact Cut.nil
  | case2 lead rest found inductionHypothesis =>
      have whole : found.1.bytes ++ found.2 = lead :: rest :=
        bytes_head_append lead rest
      rw [← whole]
      cases segment : found.1 with
      | scalar char =>
          exact Cut.scalar char inductionHypothesis
      | broken piece =>
          have breaks : Breaks piece found.2 :=
            breaks_of_head (Prod.ext segment rfl)
          exact Cut.broken breaks inductionHypothesis

/-- A broken piece reaches as far as every other one that starts where it does. -/
theorem Breaks.length_le {piece behind other otherBehind : List UInt8}
    (breaks : Breaks piece behind) (otherBreaks : Breaks other otherBehind)
    (same : piece ++ behind = other ++ otherBehind) :
    piece.length ≤ other.length := by
  rcases breaks.begins with single | begins
  · rw [single]
    exact List.length_pos_iff.mpr otherBreaks.nonempty
  · refine otherBreaks.longest piece ?_ begins
    rw [← same]
    exact List.prefix_append piece behind

theorem segments_broken_append {piece rest : List UInt8}
    (breaks : Breaks piece rest) :
    segments (piece ++ rest) = .broken piece :: segments rest := by
  obtain ⟨lead, taken, rfl⟩ := List.exists_cons_of_ne_nil breaks.nonempty
  have whole := bytes_head_append lead (taken ++ rest)
  cases found : head lead (taken ++ rest) with
  | mk segment after =>
      rw [found] at whole
      cases segment with
      | scalar char =>
          exact absurd ⟨after, whole⟩ (breaks.noChar char)
      | broken other =>
          have otherBreaks := breaks_of_head found
          have sameLength : other.length = (lead :: taken).length :=
            Nat.le_antisymm (otherBreaks.length_le breaks whole)
              (breaks.length_le otherBreaks whole.symm)
          obtain ⟨samePiece, sameRest⟩ := List.append_inj whole sameLength
          change other = lead :: taken at samePiece
          change after = rest at sameRest
          rw [List.cons_append, segments, found, samePiece, sameRest]

theorem Cut.eq_segments {bytes : List UInt8} {found : List Segment}
    (cut : Cut bytes found) : found = segments bytes := by
  induction cut with
  | nil =>
      rw [segments]
  | scalar char behind inductionHypothesis =>
      rw [segments_char_append, inductionHypothesis]
  | broken breaks behind inductionHypothesis =>
      rw [segments_broken_append breaks, inductionHypothesis]

end BlankImages.Utf8
