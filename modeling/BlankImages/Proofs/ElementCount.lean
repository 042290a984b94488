import BlankImages.Image.Basic

/-!
# Counting the elements of an image

The elements of an image are counted by two checked products: channels by height
first, and the result by width second.  The count is exact where both products
are words.  Unless the width is zero the second product is at least as large as
the first and decides alone, so that neither the order of the dimensions nor the
order of the products can be told from the outcome.  With a width of zero there
are no elements, but the first product may be too large all the same.
-/

namespace BlankImages

open Checked (ofExact wordCount)

namespace Image

/-! ## Exact sizes -/

def dimensions (image : Image) : List Word :=
  [image.channels, image.height, image.width]

/-- The exact product of channels and height, which is taken first. -/
def exactColumn (image : Image) : Nat :=
  image.channels.toNat * image.height.toNat

def exactCount (image : Image) : Nat :=
  image.channels.toNat * image.height.toNat * image.width.toNat

structure Within (smaller larger : Image) : Prop where
  channels : smaller.channels ≤ larger.channels
  height : smaller.height ≤ larger.height
  width : smaller.width ≤ larger.width

theorem exactCount_eq_foldr (image : Image) :
    image.exactCount =
      image.dimensions.foldr
        (fun dimension product => dimension.toNat * product) 1 := by
  simp [exactCount, dimensions, Nat.mul_assoc]

theorem exactCount_congr {left right : Image}
    (permuted : left.dimensions.Perm right.dimensions) :
    left.exactCount = right.exactCount := by
  rw [exactCount_eq_foldr, exactCount_eq_foldr]
  apply permuted.foldr_eq'
  intro first _ second _ product
  exact Nat.mul_left_comm second.toNat first.toNat product

theorem exactColumn_le_exactCount {image : Image}
    (someWidth : image.width ≠ 0) :
    image.exactColumn ≤ image.exactCount := by
  have widthPos : 0 < image.width.toNat :=
    UInt64.pos_iff_ne_zero.mpr someWidth
  exact Nat.le_mul_of_pos_right image.exactColumn widthPos

theorem width_ne_zero_of_notMem {image : Image}
    (noZero : 0 ∉ image.dimensions) : image.width ≠ 0 := by
  intro noWidth
  exact noZero (by simp [dimensions, noWidth])

namespace Within

variable {smaller larger : Image}

theorem exactColumn_le (within : smaller.Within larger) :
    smaller.exactColumn ≤ larger.exactColumn :=
  Nat.mul_le_mul within.channels within.height

theorem exactCount_le (within : smaller.Within larger) :
    smaller.exactCount ≤ larger.exactCount :=
  Nat.mul_le_mul within.exactColumn_le within.width

end Within

/-! ## The outcome of the count -/

theorem numel_eq (image : Image) :
    image.numel =
      if image.exactColumn < wordCount then
        ofExact image.exactCount .mulOverflow
      else
        .error .mulOverflow := by
  by_cases columnFits : image.exactColumn < wordCount
  · have columnExact :
        (UInt64.ofNat image.exactColumn).toNat = image.exactColumn :=
      UInt64.toNat_ofNat_of_lt' columnFits
    have columnReturned :
        Checked.mul image.channels image.height =
          .ok (UInt64.ofNat image.exactColumn) :=
      Checked.mul_eq_ok_iff.mpr columnExact.symm
    rw [if_pos columnFits, numel, columnReturned]
    change Checked.mul (UInt64.ofNat image.exactColumn) image.width = _
    rw [Checked.mul, columnExact]
    rfl
  · have columnFaulted :
        Checked.mul image.channels image.height = .error .mulOverflow :=
      Checked.mul_eq_error_iff.mpr ⟨Nat.le_of_not_lt columnFits, rfl⟩
    rw [if_neg columnFits, numel, columnFaulted]
    rfl

theorem numel_eq_ok_iff {image : Image} {count : Word} :
    image.numel = .ok count ↔
      image.exactColumn < wordCount ∧ image.exactCount = count.toNat := by
  rw [numel_eq]
  by_cases columnFits : image.exactColumn < wordCount
  · rw [if_pos columnFits, Checked.ofExact_eq_ok_iff]
    simp only [columnFits, true_and]
  · rw [if_neg columnFits]
    simp only [columnFits, reduceCtorEq, false_and]

theorem numel_eq_error_iff {image : Image} {fault : Fault} :
    image.numel = .error fault ↔
      (wordCount ≤ image.exactColumn ∨ wordCount ≤ image.exactCount) ∧
        fault = .mulOverflow := by
  rw [numel_eq]
  by_cases columnFits : image.exactColumn < wordCount
  · have columnNotOver : ¬ wordCount ≤ image.exactColumn :=
      Nat.not_le_of_lt columnFits
    rw [if_pos columnFits, Checked.ofExact_eq_error_iff]
    simp only [columnNotOver, false_or]
  · have columnOver : wordCount ≤ image.exactColumn :=
      Nat.le_of_not_lt columnFits
    rw [if_neg columnFits, Except.error.injEq, eq_comm]
    simp only [columnOver, true_or, true_and]

theorem exists_numel_iff {image : Image} :
    (∃ count, image.numel = .ok count) ↔
      image.exactColumn < wordCount ∧ image.exactCount < wordCount := by
  constructor
  · rintro ⟨count, returned⟩
    obtain ⟨columnFits, countExact⟩ := numel_eq_ok_iff.mp returned
    exact ⟨columnFits, countExact ▸ count.toNat_lt⟩
  · rintro ⟨columnFits, countFits⟩
    have countExact := UInt64.toNat_ofNat_of_lt' countFits
    exact
      ⟨UInt64.ofNat image.exactCount,
        numel_eq_ok_iff.mpr ⟨columnFits, countExact.symm⟩⟩

theorem exists_fault_numel_iff {image : Image} :
    (∃ fault, image.numel = .error fault) ↔
      wordCount ≤ image.exactColumn ∨ wordCount ≤ image.exactCount := by
  simp only [numel_eq_error_iff, exists_and_left, exists_eq, and_true]

/-- With some width, one check of the exact number of elements is enough. -/
theorem numel_of_width_ne_zero {image : Image} (someWidth : image.width ≠ 0) :
    image.numel = ofExact image.exactCount .mulOverflow := by
  have columnLe := exactColumn_le_exactCount someWidth
  rw [numel_eq]
  by_cases columnFits : image.exactColumn < wordCount
  · rw [if_pos columnFits]
  · -- The second product is no smaller than the first, so it is no word either.
    have countOver : wordCount ≤ image.exactCount := by
      omega
    rw [if_neg columnFits]
    exact (Checked.ofExact_eq_error_iff.mpr ⟨countOver, rfl⟩).symm

theorem numel_of_channels_or_height_eq_zero {image : Image}
    (noColumn : image.channels = 0 ∨ image.height = 0) :
    image.numel = .ok 0 := by
  have columnZero : image.exactColumn = 0 := by
    rcases noColumn with noChannels | noHeight
    · rw [exactColumn, noChannels]
      exact Nat.zero_mul _
    · rw [exactColumn, noHeight]
      exact Nat.mul_zero _
  have countZero : image.exactCount = 0 := by
    change image.exactColumn * image.width.toNat = 0
    rw [columnZero, Nat.zero_mul]
  refine numel_eq_ok_iff.mpr ⟨?_, countZero⟩
  rw [columnZero]
  decide

/-- What is nowhere larger than a counted image is counted as well. -/
theorem Within.numel_le {smaller larger : Image}
    (within : smaller.Within larger) {count : Word}
    (returned : larger.numel = .ok count) :
    ∃ fewer, smaller.numel = .ok fewer ∧ fewer ≤ count := by
  obtain ⟨columnFits, countExact⟩ := numel_eq_ok_iff.mp returned
  have smallerColumnFits : smaller.exactColumn < wordCount :=
    Nat.lt_of_le_of_lt within.exactColumn_le columnFits
  have countFits : larger.exactCount < wordCount :=
    countExact ▸ count.toNat_lt
  have smallerCountFits : smaller.exactCount < wordCount :=
    Nat.lt_of_le_of_lt within.exactCount_le countFits
  obtain ⟨fewer, fewerReturned⟩ :=
    exists_numel_iff.mpr ⟨smallerColumnFits, smallerCountFits⟩
  refine ⟨fewer, fewerReturned, ?_⟩
  obtain ⟨_, fewerExact⟩ := numel_eq_ok_iff.mp fewerReturned
  rw [UInt64.le_iff_toNat_le, ← fewerExact, ← countExact]
  exact within.exactCount_le

/-- The one corner in which the count faults although the number of elements is a
word: there is no width, and the first product is too large. -/
theorem numel_faults_on_word_iff {image : Image} :
    (image.exactCount < wordCount ∧ ∃ fault, image.numel = .error fault) ↔
      image.width = 0 ∧ wordCount ≤ image.exactColumn := by
  rw [exists_fault_numel_iff]
  constructor
  · rintro ⟨countFits, columnOver | countOver⟩
    · refine ⟨?_, columnOver⟩
      by_cases noWidth : image.width = 0
      · exact noWidth
      · have columnLe := exactColumn_le_exactCount noWidth
        omega
    · omega
  · rintro ⟨noWidth, columnOver⟩
    have countZero : image.exactCount = 0 := by
      rw [exactCount, noWidth]
      exact Nat.mul_zero _
    refine ⟨?_, Or.inl columnOver⟩
    rw [countZero]
    decide

end Image

open Image (numel_eq_error_iff numel_eq_ok_iff)

/-- The number of elements is counted exactly, or the count faults because one of
its two products is no word.  For an image without a dimension of zero neither the
order of the dimensions nor the first product has a part in the outcome, and an
image that is nowhere larger than a counted one is counted too.  Without channels
or height there are no elements; without width there are none either, but the
first product may fault. -/
theorem numel_exact_or_overflow (image : Image) :
    ((∃ count, image.numel = .ok count) ↔
      image.exactColumn < wordCount ∧ image.exactCount < wordCount) ∧
    (∀ count, image.numel = .ok count → count.toNat = image.exactCount) ∧
    (∀ fault, image.numel = .error fault ↔
      (wordCount ≤ image.exactColumn ∨ wordCount ≤ image.exactCount) ∧
        fault = .mulOverflow) ∧
    (0 ∉ image.dimensions →
      (∀ other : Image, other.dimensions.Perm image.dimensions →
        other.numel = image.numel) ∧
      ((∃ fault, image.numel = .error fault) ↔
        wordCount ≤ image.exactCount)) ∧
    (∀ smaller : Image, smaller.Within image →
      ∀ count, image.numel = .ok count →
        ∃ fewer, smaller.numel = .ok fewer ∧ fewer ≤ count) ∧
    (image.channels = 0 ∨ image.height = 0 → image.numel = .ok 0) ∧
    (image.exactCount < wordCount ∧
        (∃ fault, image.numel = .error fault) ↔
      image.width = 0 ∧ wordCount ≤ image.exactColumn) ∧
    Fault.mulOverflow.message = "attempt to multiply with overflow" := by
  refine ⟨Image.exists_numel_iff, ?_, fun _ => numel_eq_error_iff, ?_,
    fun _ within _ returned => within.numel_le returned,
    Image.numel_of_channels_or_height_eq_zero,
    Image.numel_faults_on_word_iff, rfl⟩
  · intro count returned
    exact (numel_eq_ok_iff.mp returned).2.symm
  · intro noZero
    have someWidth := Image.width_ne_zero_of_notMem noZero
    constructor
    · intro other permuted
      have otherNoZero : 0 ∉ other.dimensions := by
        rw [permuted.mem_iff]
        exact noZero
      have otherWidth := Image.width_ne_zero_of_notMem otherNoZero
      rw [Image.numel_of_width_ne_zero otherWidth,
        Image.numel_of_width_ne_zero someWidth,
        Image.exactCount_congr permuted]
    · have columnLe := Image.exactColumn_le_exactCount someWidth
      rw [Image.exists_fault_numel_iff]
      omega

/-- The largest count that there is, taken in two orders; an image without height
that is nowhere larger; and a first product that is too large with no width behind
it. -/
theorem numel_exact_or_overflow_at_limits :
    let largest : Image :=
      { channels := 0xFFFFFFFF, height := 0x100000001, width := 1 }
    let turned : Image :=
      { channels := 0x100000001, height := 1, width := 0xFFFFFFFF }
    let flat : Image :=
      { channels := 0xFFFFFFFF, height := 0, width := 1 }
    let narrow : Image :=
      { channels := 0x100000000, height := 0x100000000, width := 0 }
    largest.numel = .ok 0xFFFFFFFFFFFFFFFF ∧
      largest.exactCount = 0xFFFFFFFFFFFFFFFF ∧
      0 ∉ largest.dimensions ∧
      turned.dimensions.Perm largest.dimensions ∧
      turned.numel = largest.numel ∧
      flat.Within largest ∧
      (∃ fewer, flat.numel = .ok fewer ∧ fewer ≤ 0xFFFFFFFFFFFFFFFF) ∧
      flat.height = 0 ∧
      flat.numel = .ok 0 ∧
      narrow.exactCount < wordCount ∧
      ∃ fault, narrow.numel = .error fault := by
  intro largest turned flat narrow
  have returned : largest.numel = .ok 0xFFFFFFFFFFFFFFFF := by
    decide
  have noZero : 0 ∉ largest.dimensions := by
    decide
  have permuted : turned.dimensions.Perm largest.dimensions := by
    decide
  have within : flat.Within largest := by
    exact ⟨by decide, by decide, by decide⟩
  obtain ⟨_, isExact, _, ofNoZero, ofWithin, _⟩ :=
    numel_exact_or_overflow largest
  obtain ⟨_, _, _, _, _, ofNoHeight, _⟩ := numel_exact_or_overflow flat
  obtain ⟨_, _, _, _, _, _, corner, _⟩ := numel_exact_or_overflow narrow
  obtain ⟨narrowFits, narrowFaults⟩ := corner.mpr ⟨rfl, by decide⟩
  exact
    ⟨returned, (isExact _ returned).symm, noZero, permuted,
      (ofNoZero noZero).1 turned permuted, within,
      ofWithin flat within _ returned, rfl, ofNoHeight (Or.inr rfl),
      narrowFits, narrowFaults⟩

end BlankImages
