import BlankImages.Image.Description
import BlankImages.Label.Basic
import BlankImages.Proofs.RecordReading
import Mathlib.Tactic.TFAE

/-!
# Reading numbers from texts

The numbers in a text are its runs of digits, each of them as long as it can be.
In the texts of label errors and of images the text between two numbers has no
digits, so that the numbers are read back without knowing how the text is laid
out.  Two values of one kind therefore have equal texts only when they are equal.
-/

namespace BlankImages

theorem FieldText.goesOn_append {text : String} (goesOn : GoesOn text)
    (behind : String) : GoesOn (text ++ behind) := by
  obtain ⟨char, tail, separator, begins⟩ := goesOn
  refine ⟨char, tail ++ behind.toList, separator, ?_⟩
  rw [String.toList_append, begins, List.cons_append]

namespace Decimal

/-- The numbers in a text.  The first of them may have begun before the text,
and its value so far is then given. -/
def readOnto : Option Nat → List Char → List Nat
  | begun, [] => begun.toList
  | begun, char :: rest =>
      if char.isDigit = true then
        readOnto (some (10 * begun.getD 0 + (char.toNat - '0'.toNat))) rest
      else
        begun.toList ++ readOnto none rest

def numbers (text : String) : List Nat :=
  readOnto none text.toList

/-! ## Runs of digits -/

theorem readOnto_digits {digits : List Char}
    (areDigits : ∀ char ∈ digits, char.isDigit = true) (value : Nat)
    (rest : List Char) :
    readOnto (some value) (digits ++ rest) =
      readOnto (some (Nat.ofDigitChars 10 digits value)) rest := by
  induction digits generalizing value with
  | nil =>
      rfl
  | cons char others inductionHypothesis =>
      obtain ⟨isDigit, othersAreDigits⟩ := List.forall_mem_cons.mp areDigits
      rw [List.cons_append, readOnto, if_pos isDigit,
        inductionHypothesis othersAreDigits, Nat.ofDigitChars_cons]
      rfl

/-- A number begins with its first digit, as if a zero stood before it. -/
theorem readOnto_none_of_digit {char : Char} (isDigit : char.isDigit = true)
    (rest : List Char) :
    readOnto none (char :: rest) = readOnto (some 0) (char :: rest) := by
  rw [readOnto, readOnto, if_pos isDigit, if_pos isDigit]
  rfl

theorem readOnto_none_of_not_digit {char : Char}
    (notDigit : char.isDigit = false) (rest : List Char) :
    readOnto none (char :: rest) = readOnto none rest := by
  rw [readOnto, if_neg (by simp [notDigit])]
  rfl

theorem readOnto_some_of_not_digit {char : Char}
    (notDigit : char.isDigit = false) (value : Nat) (rest : List Char) :
    readOnto (some value) (char :: rest) =
      value :: readOnto none (char :: rest) := by
  rw [readOnto_none_of_not_digit notDigit, readOnto,
    if_neg (by simp [notDigit])]
  rfl

theorem readOnto_numeral (value : Nat) (rest : List Char) :
    readOnto none ((toString value).toList ++ rest) =
      readOnto (some value) rest := by
  have areDigits : ∀ char ∈ Nat.toDigits 10 value, char.isDigit = true := by
    intro char member
    exact Nat.isDigit_of_mem_toDigits (by decide) (by decide) member
  have read := readOnto_digits areDigits 0 rest
  rw [Nat.ofDigitChars_ten_toDigits] at read
  rw [Nat.toString_eq_repr, Nat.toList_repr, ← read]
  cases shown : Nat.toDigits 10 value with
  | nil =>
      exact absurd shown Nat.toDigits_ne_nil
  | cons char others =>
      rw [shown] at areDigits
      exact readOnto_none_of_digit (areDigits char List.mem_cons_self) _

/-! ## Texts that show numbers -/

def Digitless (text : String) : Prop :=
  ∀ char ∈ text.toList, char.isDigit = false

instance (text : String) : Decidable (Digitless text) :=
  List.decidableBAll _ text.toList

/-- A text that shows numbers, of which the last one ends within the text. -/
def Shows (text : String) (shown : List Nat) : Prop :=
  ∀ behind, readOnto none (text.toList ++ behind) =
    shown ++ readOnto none behind

namespace Shows

variable {text other : String} {shown otherShown : List Nat}

theorem numbers_eq (shows : Shows text shown) : numbers text = shown := by
  have read := shows []
  rw [List.append_nil] at read
  rw [numbers, read]
  exact List.append_nil shown

theorem append (first : Shows text shown) (second : Shows other otherShown) :
    Shows (text ++ other) (shown ++ otherShown) := by
  intro behind
  rw [String.toList_append, List.append_assoc, first, second, List.append_assoc]

theorem of_digitless (digitless : Digitless text) : Shows text [] := by
  intro behind
  unfold Digitless at digitless
  revert digitless
  induction text.toList with
  | nil =>
      intro _
      rfl
  | cons char others inductionHypothesis =>
      intro digitless
      obtain ⟨notDigit, othersDigitless⟩ := List.forall_mem_cons.mp digitless
      rw [List.cons_append, readOnto_none_of_not_digit notDigit]
      exact inductionHypothesis othersDigitless

theorem behind_digitless (digitless : Digitless text)
    (shows : Shows other shown) : Shows (text ++ other) shown :=
  (of_digitless digitless).append shows

/-- A number ends where the text goes on with a comma or a space. -/
theorem number (value : Nat) (goesOn : FieldText.GoesOn text)
    (shows : Shows text shown) :
    Shows (toString value ++ text) (value :: shown) := by
  obtain ⟨char, tail, separator, begins⟩ := goesOn
  have notDigit : char.isDigit = false := by
    simp only [FieldText.isSeparator, Bool.or_eq_true, beq_iff_eq] at separator
    rcases separator with rfl | rfl
    · rfl
    · rfl
  intro behind
  have read := shows behind
  rw [begins, List.cons_append] at read
  rw [String.toList_append, List.append_assoc, readOnto_numeral, begins,
    List.cons_append, readOnto_some_of_not_digit notDigit, read,
    List.cons_append]

end Shows

/-- A text that shows numbers by which its value is known shows its value. -/
theorem text_inj {α : Type} {text : α → String} {numbers : α → List Nat}
    (shows : ∀ value, Shows (text value) (numbers value))
    (known : Function.Injective numbers) {left right : α} :
    text left = text right ↔ left = right := by
  constructor
  · intro same
    have read := congrArg Decimal.numbers same
    rw [(shows left).numbers_eq, (shows right).numbers_eq] at read
    exact known read
  · intro same
    rw [same]

end Decimal

/-! ## Records of numbers -/

namespace Record

open Decimal (Digitless Shows)

/-- A record whose fields are numbers, under labels without digits. -/
structure OfNumbers (record : Record) (values : List (String × Word)) : Prop where
  name : Digitless record.name
  labels : ∀ value ∈ values, Digitless value.1
  fields : record.fields = values.map fun value => number value.1 value.2

section

variable {values : List (String × Word)}

theorem shows_compactFields (labels : ∀ value ∈ values, Digitless value.1) :
    Shows
      (compactFields (values.map fun value => number value.1 value.2) ++ " \x7d")
      (values.map fun value => value.2.toNat) := by
  induction values with
  | nil =>
      exact Shows.of_digitless (by decide)
  | cons value rest inductionHypothesis =>
      obtain ⟨label, restLabels⟩ := List.forall_mem_cons.mp labels
      have restShows := inductionHypothesis restLabels
      have behindShows :
          Shows
            (compactBehind (rest.map fun value => number value.1 value.2))
            (rest.map fun value => value.2.toNat) := by
        cases rest with
        | nil =>
            exact Shows.of_digitless (by decide)
        | cons next others =>
            exact Shows.behind_digitless (by decide) restShows
      rw [List.map_cons, List.map_cons, compactFields_cons_append]
      exact
        Shows.behind_digitless label
          (Shows.behind_digitless (by decide)
            (Shows.number _ (goesOn_compactBehind _) behindShows))

theorem shows_prettyFields (labels : ∀ value ∈ values, Digitless value.1) :
    Shows
      (prettyFields (values.map fun value => number value.1 value.2) ++ "\x7d")
      (values.map fun value => value.2.toNat) := by
  induction values with
  | nil =>
      exact Shows.of_digitless (by decide)
  | cons value rest inductionHypothesis =>
      obtain ⟨label, restLabels⟩ := List.forall_mem_cons.mp labels
      have restShows := inductionHypothesis restLabels
      rw [List.map_cons, List.map_cons, prettyFields_cons_append]
      exact
        Shows.behind_digitless (by decide)
          (Shows.behind_digitless label
            (Shows.behind_digitless (by decide)
              (Shows.number _ (goesOn_line _)
                (Shows.behind_digitless (by decide) restShows))))

end

namespace OfNumbers

variable {record : Record} {values : List (String × Word)}

theorem shows_compact (ofNumbers : OfNumbers record values) :
    Shows record.compact (values.map fun value => value.2.toNat) := by
  rw [Record.compact, ofNumbers.fields, String.append_assoc, String.append_assoc]
  exact
    Shows.behind_digitless ofNumbers.name
      (Shows.behind_digitless (by decide) (shows_compactFields ofNumbers.labels))

theorem shows_pretty (ofNumbers : OfNumbers record values) :
    Shows record.pretty (values.map fun value => value.2.toNat) := by
  rw [Record.pretty, ofNumbers.fields, String.append_assoc, String.append_assoc]
  exact
    Shows.behind_digitless ofNumbers.name
      (Shows.behind_digitless (by decide) (shows_prettyFields ofNumbers.labels))

end OfNumbers

end Record

open Decimal (Shows)

/-! ## Label errors -/

namespace LabelError

def numbers (error : LabelError) : List Nat :=
  [error.found.toNat, error.max.toNat]

theorem numbers_injective : Function.Injective numbers := by
  rintro ⟨leftFound, leftMax⟩ ⟨rightFound, rightMax⟩ same
  simpa [numbers, UInt64.toNat_inj] using same

theorem shows_sentence (error : LabelError) :
    Shows error.sentence error.numbers := by
  have maxGoesOn : FieldText.GoesOn " classes" :=
    ⟨' ', "classes".toList, rfl, rfl⟩
  have foundGoesOn : FieldText.GoesOn " is out of range for " :=
    ⟨' ', "is out of range for ".toList, rfl, rfl⟩
  have classes : Shows " classes" [] := Shows.of_digitless (by decide)
  have maxShown := Shows.number error.max.toNat maxGoesOn classes
  have betweenDigitless : Decimal.Digitless " is out of range for " := by
    decide
  have foundShown :=
    Shows.number error.found.toNat (FieldText.goesOn_append foundGoesOn _)
      (Shows.behind_digitless betweenDigitless maxShown)
  simp only [sentence, String.append_assoc]
  exact Shows.behind_digitless (by decide) foundShown

theorem ofNumbers_record (error : LabelError) :
    error.record.OfNumbers [("found", error.found), ("max", error.max)] where
  name := by
    change Decimal.Digitless "LabelOrdinalError"
    decide
  labels := by
    simp only [List.forall_mem_cons]
    exact ⟨by decide, by decide, List.forall_mem_nil _⟩
  fields := rfl

end LabelError

/-! ## Images -/

namespace Image

def numbers (image : Image) : List Nat :=
  [image.channels.toNat, image.height.toNat, image.width.toNat]

theorem numbers_injective : Function.Injective numbers := by
  rintro ⟨leftChannels, leftHeight, leftWidth⟩
    ⟨rightChannels, rightHeight, rightWidth⟩ same
  simpa [numbers, UInt64.toNat_inj] using same

theorem ofNumbers_record (image : Image) :
    image.record.OfNumbers
      [("channels", image.channels), ("height", image.height),
        ("width", image.width)] where
  name := by
    change Decimal.Digitless "PlaceholderImage"
    decide
  labels := by
    simp only [List.forall_mem_cons]
    exact ⟨by decide, by decide, by decide, List.forall_mem_nil _⟩
  fields := rfl

end Image

/-- The texts of label errors and of images give their numbers back, up to the
greatest word, in the order of the fields.  So two of them are equal as soon as
one of their texts is. -/
theorem texts_show_numbers (left right : LabelError) (first second : Image) :
    (List.TFAE
        [left = right,
          left.sentence = right.sentence,
          left.record.compact = right.record.compact,
          left.record.pretty = right.record.pretty] ∧
      ∀ text ∈ [left.sentence, left.record.compact, left.record.pretty],
        Decimal.numbers text = [left.found.toNat, left.max.toNat]) ∧
    (List.TFAE
        [(first == second) = true,
          first.shape = second.shape,
          first.record.compact = second.record.compact,
          first.record.pretty = second.record.pretty] ∧
      ∀ text ∈ [first.record.compact, first.record.pretty],
        Decimal.numbers text =
          [first.channels.toNat, first.height.toNat, first.width.toNat]) := by
  have sentenceShows := LabelError.shows_sentence
  have errorCompactShows (error : LabelError) :=
    error.ofNumbers_record.shows_compact
  have errorPrettyShows (error : LabelError) :=
    error.ofNumbers_record.shows_pretty
  have imageCompactShows (image : Image) := image.ofNumbers_record.shows_compact
  have imagePrettyShows (image : Image) := image.ofNumbers_record.shows_pretty
  have errorKnown := LabelError.numbers_injective
  have imageKnown := Image.numbers_injective
  refine ⟨⟨?_, ?_⟩, ?_, ?_⟩
  · tfae_have 2 ↔ 1 := Decimal.text_inj sentenceShows errorKnown
    tfae_have 3 ↔ 1 := Decimal.text_inj errorCompactShows errorKnown
    tfae_have 4 ↔ 1 := Decimal.text_inj errorPrettyShows errorKnown
    tfae_finish
  · simp only [List.forall_mem_cons]
    exact
      ⟨(sentenceShows left).numbers_eq, (errorCompactShows left).numbers_eq,
        (errorPrettyShows left).numbers_eq, List.forall_mem_nil _⟩
  · rw [beq_iff_eq]
    tfae_have 2 ↔ 1 := Image.shape_inj
    tfae_have 3 ↔ 1 := Decimal.text_inj imageCompactShows imageKnown
    tfae_have 4 ↔ 1 := Decimal.text_inj imagePrettyShows imageKnown
    tfae_finish
  · simp only [List.forall_mem_cons]
    exact
      ⟨(imageCompactShows first).numbers_eq, (imagePrettyShows first).numbers_eq,
        List.forall_mem_nil _⟩

end BlankImages
