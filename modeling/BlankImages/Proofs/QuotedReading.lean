import BlankImages.Proofs.SegmentBytes
import BlankImages.Text.Quoted

/-!
# Reading quoted byte strings

A quoted byte string can be read back.  The quote that closes it is the first
one that no backslash escapes, so the reader needs no length and nothing about
the text behind; and what stands between the quotes is decoded one character
after the other, an escape of any kind being a few steps of the decoder.
-/

namespace BlankImages

namespace Hex

/-- Digits come one behind the other, the last one being the lowest. -/
theorem digits_induction {motive : Nat → List Char → Prop}
    (single : ∀ digit < 16, motive digit [Nat.digitChar digit])
    (behind : ∀ value digit, digit < 16 → motive value (digits value) →
      motive (value * 16 + digit) (digits value ++ [Nat.digitChar digit]))
    (value : Nat) :
    motive value (digits value) := by
  induction value using Nat.strongRecOn with
  | ind value inductionHypothesis =>
      by_cases small : value < 16
      · rw [digits, Nat.toDigits_of_lt_base small]
        exact single value small
      · have large : 16 ≤ value := Nat.le_of_not_lt small
        have lowest : value % 16 < 16 := Nat.mod_lt _ (by decide)
        have fewer : value / 16 < value := by omega
        have whole : value / 16 * 16 + value % 16 = value := by omega
        have extended :=
          behind (value / 16) (value % 16) lowest
            (inductionHypothesis (value / 16) fewer)
        rw [whole] at extended
        rw [digits, Nat.toDigits_of_base_le (by decide) large]
        exact extended

theorem exists_value?_of_mem_digits (value : Nat) :
    ∀ char ∈ digits value, ∃ digit, value? char = some digit := by
  induction value using digits_induction with
  | single digit small =>
      intro char member
      rw [List.mem_singleton] at member
      exact ⟨digit, member ▸ value?_digitChar digit small⟩
  | behind value digit small inductionHypothesis =>
      intro char member
      rcases List.mem_append.mp member with among | last
      · exact inductionHypothesis char among
      · rw [List.mem_singleton] at last
        exact ⟨digit, last ▸ value?_digitChar digit small⟩

theorem value?_toUpper_digitChar :
    ∀ digit < 16, value? (Nat.digitChar digit).toUpper = some digit := by
  decide

end Hex

namespace Quoted

/-! ## The closing quote -/

/-- The text before the first quote that no backslash escapes, and the text
behind that quote.  The flag tells whether the first character is escaped. -/
def untilQuote (escaped : Bool) : List Char → Option (List Char × List Char)
  | [] => none
  | char :: rest =>
      if char = '"' ∧ escaped = false then
        some ([], rest)
      else
        (untilQuote (char = '\\' ∧ escaped = false) rest).map
          (Prod.map (char :: ·) id)

/-! ## Decoding -/

def shortEscape? : Char → Option UInt8
  | '0' => some 0x00
  | 't' => some 0x09
  | 'r' => some 0x0D
  | 'n' => some 0x0A
  | '"' => some 0x22
  | '\\' => some 0x5C
  | _ => none

/-- Where a decoder stands: between two characters, behind a backslash, before
the bracket of a code, among its digits, before the two digits of a byte, or
between them.  Of the digits before it, it knows the value. -/
inductive Decoder where
  | between
  | escaped
  | opening
  | code (value : Nat)
  | high
  | low (value : Nat)

namespace Decoder

/-- The bytes that a character completes, and where the decoder stands behind
it. -/
def step? : Decoder → Char → Option (List UInt8 × Decoder)
  | between, char =>
      if char = '\\' then some ([], escaped)
      else some (String.utf8EncodeChar char, between)
  | escaped, char =>
      if char = 'u' then some ([], opening)
      else if char = 'x' then some ([], high)
      else (shortEscape? char).map fun byte => ([byte], between)
  | opening, char =>
      if char = '\x7b' then some ([], code 0) else none
  | code value, char =>
      if char = '\x7d' then
        some (String.utf8EncodeChar (Char.ofNat value), between)
      else
        (Hex.value? char).map fun digit => ([], code (value * 16 + digit))
  | high, char =>
      (Hex.value? char).map fun digit => ([], low digit)
  | low value, char =>
      (Hex.value? char).map fun digit =>
        ([UInt8.ofNat (value * 16 + digit)], between)

/-- The bytes of a text, which must not end within an escape. -/
def run? : Decoder → List Char → Option (List UInt8)
  | between, [] => some []
  | _, [] => none
  | decoder, char :: rest =>
      (step? decoder char).bind fun (bytes, next) =>
        (run? next rest).map (bytes ++ ·)

theorem run?_cons {decoder next : Decoder} {char : Char} {bytes : List UInt8}
    (step : step? decoder char = some (bytes, next)) (rest : List Char) :
    run? decoder (char :: rest) = (run? next rest).map (bytes ++ ·) := by
  rw [run?, step, Option.bind_some]

theorem run?_silent {decoder next : Decoder} {char : Char}
    (step : step? decoder char = some ([], next)) (rest : List Char) :
    run? decoder (char :: rest) = run? next rest := by
  rw [run?_cons step]
  exact Option.map_id'

theorem run?_backslash (rest : List Char) :
    run? between ('\\' :: rest) = run? escaped rest :=
  run?_silent rfl rest

theorem run?_codeMarks (rest : List Char) :
    run? escaped ('u' :: '\x7b' :: rest) = run? (code 0) rest := by
  have letter : step? escaped 'u' = some ([], opening) := rfl
  have bracket : step? opening '\x7b' = some ([], code 0) := rfl
  rw [run?_silent letter, run?_silent bracket]

theorem run?_byteMark (rest : List Char) :
    run? escaped ('x' :: rest) = run? high rest :=
  run?_silent rfl rest

theorem step?_between {char : Char} (notBackslash : char ≠ '\\') :
    step? between char = some (String.utf8EncodeChar char, between) :=
  if_neg notBackslash

theorem step?_escaped {letter : Char} {byte : UInt8}
    (known : shortEscape? letter = some byte) :
    step? escaped letter = some ([byte], between) := by
  have notCode : letter ≠ 'u' := by
    rintro rfl
    cases known
  have notByte : letter ≠ 'x' := by
    rintro rfl
    cases known
  rw [step?, if_neg notCode, if_neg notByte, known]
  rfl

theorem step?_code {char : Char} {digit : Nat} (value : Nat)
    (known : Hex.value? char = some digit) :
    step? (code value) char = some ([], code (value * 16 + digit)) := by
  have notBracket : char ≠ '\x7d' := by
    rintro rfl
    cases known
  rw [step?, if_neg notBracket, known]
  rfl

theorem step?_high {char : Char} {digit : Nat}
    (known : Hex.value? char = some digit) :
    step? high char = some ([], low digit) := by
  rw [step?, known]
  rfl

theorem step?_low {char : Char} {digit : Nat} (value : Nat)
    (known : Hex.value? char = some digit) :
    step? (low value) char =
      some ([UInt8.ofNat (value * 16 + digit)], between) := by
  rw [step?, known]
  rfl

theorem run?_digits (value : Nat) :
    ∀ rest, run? (code 0) (Hex.digits value ++ rest) = run? (code value) rest := by
  -- The lowest digit is read last, with the value of the others behind it.
  induction value using Hex.digits_induction with
  | single digit small =>
      intro rest
      have step := step?_code 0 (Hex.value?_digitChar digit small)
      rw [Nat.zero_mul, Nat.zero_add] at step
      rw [List.singleton_append, run?_silent step]
  | behind value digit small inductionHypothesis =>
      intro rest
      have step := step?_code value (Hex.value?_digitChar digit small)
      rw [List.append_assoc, inductionHypothesis, List.singleton_append,
        run?_silent step]

end Decoder

/-! ## What quoting writes -/

/-- A character that is no part of an escape and ends no line. -/
structure IsPlain (char : Char) : Prop where
  notQuote : char ≠ '"'
  notBackslash : char ≠ '\\'
  notNewline : char ≠ '\n'

theorem isPlain_of_value? {char : Char} {digit : Nat}
    (known : Hex.value? char = some digit) : IsPlain char := by
  refine ⟨?_, ?_, ?_⟩
  all_goals
    rintro rfl
    cases known

/-- The texts that stand for byte strings between quotes. -/
inductive Writing : List Char → List UInt8 → Prop where
  | nil : Writing [] []
  | plain {char : Char} {text : List Char} {bytes : List UInt8}
      (isPlain : IsPlain char) (rest : Writing text bytes) :
      Writing (char :: text) (String.utf8EncodeChar char ++ bytes)
  | short {letter : Char} {byte : UInt8} {text : List Char}
      {bytes : List UInt8} (known : shortEscape? letter = some byte)
      (rest : Writing text bytes) :
      Writing ('\\' :: letter :: text) (byte :: bytes)
  | code (char : Char) {text : List Char} {bytes : List UInt8}
      (rest : Writing text bytes) :
      Writing (codeEscape char ++ text) (String.utf8EncodeChar char ++ bytes)
  | value (byte : UInt8) {text : List Char} {bytes : List UInt8}
      (rest : Writing text bytes) :
      Writing (writeByte byte ++ text) (byte :: bytes)

namespace Writing

variable {text : List Char} {bytes : List UInt8}

theorem writeChar (char : Char) (rest : Writing text bytes) :
    Writing (Quoted.writeChar char ++ text)
      (String.utf8EncodeChar char ++ bytes) := by
  unfold Quoted.writeChar
  by_cases special : char ∈ ['\x00', '\t', '\r', '\n', '"', '\\']
  · simp only [List.mem_cons, List.not_mem_nil, or_false] at special
    rcases special with rfl | rfl | rfl | rfl | rfl | rfl
    all_goals exact Writing.short rfl rest
  simp only [List.mem_cons, List.not_mem_nil, or_false, not_or] at special
  obtain ⟨zero, tab, carriageReturn, newline, quote, backslash⟩ := special
  rw [if_neg zero, if_neg tab, if_neg carriageReturn, if_neg newline,
    if_neg quote, if_neg backslash]
  by_cases combining : Combining.contains char = true
  · rw [if_pos combining]
    exact Writing.code char rest
  rw [if_neg combining]
  by_cases printable : Printable.contains char = true
  · rw [if_pos printable]
    exact Writing.plain ⟨quote, backslash, newline⟩ rest
  · rw [if_neg printable]
    exact Writing.code char rest

theorem writeSegment (segment : Utf8.Segment) (rest : Writing text bytes) :
    Writing (Quoted.writeSegment segment ++ text) (segment.bytes ++ bytes) := by
  cases segment with
  | scalar char =>
      exact rest.writeChar char
  | broken broken =>
      change Writing (broken.flatMap writeByte ++ text) (broken ++ bytes)
      induction broken with
      | nil =>
          exact rest
      | cons byte others inductionHypothesis =>
          rw [List.flatMap_cons, List.append_assoc]
          exact Writing.value byte inductionHypothesis

end Writing

theorem writing_body (bytes : List UInt8) : Writing (body bytes) bytes := by
  -- Bytes are quoted by segments, so the induction is on a list of these, which
  -- need not come from cutting a byte string.
  have written :
      ∀ segments : List Utf8.Segment,
        Writing (segments.flatMap writeSegment)
          (segments.flatMap Utf8.Segment.bytes) := by
    intro segments
    induction segments with
    | nil =>
        exact Writing.nil
    | cons segment rest inductionHypothesis =>
        rw [List.flatMap_cons, List.flatMap_cons]
        exact inductionHypothesis.writeSegment segment
  have whole := written (Utf8.segments bytes)
  rw [Utf8.flatMap_bytes_segments] at whole
  exact whole

namespace Writing

variable {text : List Char} {bytes : List UInt8}

theorem run?_eq (writing : Writing text bytes) :
    Decoder.run? .between text = some bytes := by
  induction writing with
  | nil =>
      rfl
  | plain isPlain rest inductionHypothesis =>
      rw [Decoder.run?_cons (Decoder.step?_between isPlain.notBackslash),
        inductionHypothesis]
      rfl
  | short known rest inductionHypothesis =>
      rw [Decoder.run?_backslash,
        Decoder.run?_cons (Decoder.step?_escaped known), inductionHypothesis]
      rfl
  | @code char text bytes rest inductionHypothesis =>
      have closing :
          Decoder.step? (.code char.toNat) '\x7d' =
            some (String.utf8EncodeChar char, .between) := by
        rw [Decoder.step?, if_pos rfl, Char.ofNat_toNat]
      have digits := Decoder.run?_digits char.toNat ('\x7d' :: text)
      rw [Decoder.run?_cons closing, inductionHypothesis] at digits
      simp only [codeEscape, List.cons_append, List.nil_append, List.append_assoc]
      rw [Decoder.run?_backslash, Decoder.run?_codeMarks, digits]
      rfl
  | @value byte text bytes rest inductionHypothesis =>
      have small := byte.toNat_lt
      have high := Hex.value?_toUpper_digitChar (byte.toNat / 16) (by omega)
      have low := Hex.value?_toUpper_digitChar (byte.toNat % 16) (by omega)
      have whole : byte.toNat / 16 * 16 + byte.toNat % 16 = byte.toNat := by
        omega
      have lowStep := Decoder.step?_low (byte.toNat / 16) low
      rw [whole, UInt8.ofNat_toNat] at lowStep
      simp only [writeByte, Hex.upper, Hex.lower, List.map_cons, List.map_nil,
        List.cons_append, List.nil_append]
      rw [Decoder.run?_backslash, Decoder.run?_byteMark,
        Decoder.run?_silent (Decoder.step?_high high),
        Decoder.run?_cons lowStep, inductionHypothesis]
      rfl

end Writing

/-! ## The shape of what is written -/

/-- Texts of plain characters, and of backslashes with the character behind
them. -/
inductive Spelled : List Char → Prop where
  | nil : Spelled []
  | plain {char : Char} {text : List Char} (isPlain : IsPlain char)
      (rest : Spelled text) : Spelled (char :: text)
  | escape {letter : Char} {text : List Char} (notNewline : letter ≠ '\n')
      (rest : Spelled text) : Spelled ('\\' :: letter :: text)

namespace Spelled

variable {text : List Char}

theorem append_plain {tail : List Char} (plain : ∀ char ∈ tail, IsPlain char)
    (rest : Spelled text) : Spelled (tail ++ text) := by
  induction tail with
  | nil =>
      exact rest
  | cons char others inductionHypothesis =>
      obtain ⟨first, later⟩ := List.forall_mem_cons.mp plain
      exact Spelled.plain first (inductionHypothesis later)

theorem codeEscape (char : Char) (rest : Spelled text) :
    Spelled (Quoted.codeEscape char ++ text) := by
  have digits : ∀ digit ∈ Hex.digits char.toNat, IsPlain digit := by
    intro digit member
    obtain ⟨value, known⟩ := Hex.exists_value?_of_mem_digits _ digit member
    exact isPlain_of_value? known
  have bracket : IsPlain '\x7b' := by
    constructor <;> decide
  have closing : IsPlain '\x7d' := by
    constructor <;> decide
  simp only [Quoted.codeEscape, List.cons_append, List.nil_append,
    List.append_assoc]
  exact
    Spelled.escape (by decide)
      (Spelled.plain bracket
        (append_plain digits (Spelled.plain closing rest)))

theorem writeByte (byte : UInt8) (rest : Spelled text) :
    Spelled (Quoted.writeByte byte ++ text) := by
  have small := byte.toNat_lt
  have high := Hex.value?_toUpper_digitChar (byte.toNat / 16) (by omega)
  have low := Hex.value?_toUpper_digitChar (byte.toNat % 16) (by omega)
  exact
    Spelled.escape (by decide)
      (Spelled.plain (isPlain_of_value? high)
        (Spelled.plain (isPlain_of_value? low) rest))

theorem newline_notMem (spelled : Spelled text) : '\n' ∉ text := by
  induction spelled with
  | nil =>
      exact List.not_mem_nil
  | plain isPlain rest inductionHypothesis =>
      exact
        List.not_mem_cons_of_ne_of_not_mem isPlain.notNewline.symm
          inductionHypothesis
  | escape notNewline rest inductionHypothesis =>
      exact
        List.not_mem_cons_of_ne_of_not_mem (by decide)
          (List.not_mem_cons_of_ne_of_not_mem notNewline.symm
            inductionHypothesis)

theorem untilQuote_append (spelled : Spelled text) (behind : List Char) :
    untilQuote false (text ++ '"' :: behind) = some (text, behind) := by
  induction spelled with
  | nil =>
      rfl
  | @plain char text isPlain rest inductionHypothesis =>
      have notClosing : ¬ (char = '"' ∧ false = false) :=
        fun both => isPlain.notQuote both.1
      have notEscaping : decide (char = '\\' ∧ false = false) = false :=
        decide_eq_false fun both => isPlain.notBackslash both.1
      rw [List.cons_append, untilQuote, if_neg notClosing, notEscaping,
        inductionHypothesis]
      rfl
  | @escape letter text notNewline rest inductionHypothesis =>
      have notClosing : ¬ (letter = '"' ∧ true = false) := by
        simp
      have notEscaping : decide (letter = '\\' ∧ true = false) = false := by
        simp
      have behindBackslash :
          untilQuote true (letter :: (text ++ '"' :: behind)) =
            some (letter :: text, behind) := by
        rw [untilQuote, if_neg notClosing, notEscaping, inductionHypothesis]
        rfl
      have atBackslash :
          untilQuote false ('\\' :: letter :: (text ++ '"' :: behind)) =
            (untilQuote true (letter :: (text ++ '"' :: behind))).map
              (Prod.map ('\\' :: ·) id) :=
        rfl
      rw [List.cons_append, List.cons_append, atBackslash, behindBackslash]
      rfl

end Spelled

theorem Writing.spelled {text : List Char} {bytes : List UInt8}
    (writing : Writing text bytes) : Spelled text := by
  induction writing with
  | nil =>
      exact Spelled.nil
  | plain isPlain rest inductionHypothesis =>
      exact Spelled.plain isPlain inductionHypothesis
  | short known rest inductionHypothesis =>
      refine Spelled.escape ?_ inductionHypothesis
      rintro rfl
      cases known
  | code char rest inductionHypothesis =>
      exact inductionHypothesis.codeEscape char
  | value byte rest inductionHypothesis =>
      exact inductionHypothesis.writeByte byte

theorem spelled_body (bytes : List UInt8) : Spelled (body bytes) :=
  (writing_body bytes).spelled

/-! ## Reading back -/

/-- The bytes of the quoted byte string with which a text begins, and the text
behind its closing quote. -/
def read? : List Char → Option (List UInt8 × List Char)
  | '"' :: rest => do
      let (inside, behind) ← untilQuote false rest
      let bytes ← Decoder.run? .between inside
      return (bytes, behind)
  | _ => none

theorem toList_write (bytes : List UInt8) :
    (write bytes).toList = '"' :: body bytes ++ ['"'] :=
  String.toList_ofList

/-- A quoted byte string reads back, whatever stands behind it. -/
theorem read?_write_append (bytes : List UInt8) (behind : List Char) :
    read? ((write bytes).toList ++ behind) = some (bytes, behind) := by
  have closed := (spelled_body bytes).untilQuote_append behind
  have decoded := (writing_body bytes).run?_eq
  rw [toList_write, List.cons_append, List.cons_append, List.append_assoc,
    List.singleton_append, read?, closed]
  simp only [Option.bind_eq_bind, Option.bind_some, decoded, Option.pure_def]

theorem write_append_inj {left right : List UInt8}
    {leftBehind rightBehind : List Char}
    (same : (write left).toList ++ leftBehind =
      (write right).toList ++ rightBehind) :
    left = right ∧ leftBehind = rightBehind := by
  have read := congrArg read? same
  rw [read?_write_append, read?_write_append] at read
  simpa using read

end Quoted

end BlankImages
