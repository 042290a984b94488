import BlankImages.Image.Tensor
import BlankImages.Proofs.ElementCount

/-!
# The size of a tensor

Making a tensor takes the products of the element count, then those of the
strides, and then asks for storage.  The number of channels has no part in the
strides, so their product adds a limit of its own; but with at least one channel
an image within the limits of the count is within this one as well.  The limit of
the strides shows only on an image without channels, which has no elements and
can still be too wide and too high.
-/

namespace BlankImages

open Checked (wordCount)
open Image (exists_fault_numel_iff exists_numel_iff numel_eq_error_iff
  numel_eq_ok_iff)

/-! ## The two rounds of products -/

namespace Tensor

theorem count_eq_numel (image : Image) :
    count image.channels image.height image.width = image.numel := by
  rw [count, Checked.one_mul]
  rfl

theorem strides_eq (height width : Word) :
    strides height width =
      (Checked.mul width height).map fun plane => (plane, width, 1) := by
  rw [strides, Checked.one_mul]
  cases multiplied : Checked.mul width height with
  | error fault =>
      simp [multiplied, bind, Except.bind, Except.map]
  | ok plane =>
      simp [multiplied, bind, Except.bind, Except.map, pure, Except.pure]

end Tensor

namespace Image

def exactPlane (image : Image) : Nat :=
  image.height.toNat * image.width.toNat

/-- Every product that is taken on the way to a tensor is a word. -/
structure Indexable (image : Image) : Prop where
  column : image.exactColumn < wordCount
  count : image.exactCount < wordCount
  plane : image.exactPlane < wordCount

def zeroTensor (image : Image) : Tensor where
  shape := image.shape
  entries := { value := 0, size := image.exactCount }

theorem indexable_iff {image : Image} :
    image.Indexable ↔
      image.exactColumn < wordCount ∧ image.exactCount < wordCount ∧
        image.exactPlane < wordCount := by
  constructor
  · intro indexable
    exact ⟨indexable.column, indexable.count, indexable.plane⟩
  · rintro ⟨columnFits, countFits, planeFits⟩
    exact ⟨columnFits, countFits, planeFits⟩

theorem not_indexable_iff {image : Image} :
    ¬ image.Indexable ↔
      wordCount ≤ image.exactColumn ∨ wordCount ≤ image.exactCount ∨
        wordCount ≤ image.exactPlane := by
  rw [indexable_iff]
  omega

/-! ## The outcome -/

theorem toTensor_of_indexable {image : Image}
    (indexable : image.Indexable) :
    image.toTensor =
      if largestBlock < Tensor.elementBytes * image.exactCount then
        .error .outOfMemory
      else
        .ok image.zeroTensor := by
  obtain ⟨size, counted⟩ :=
    exists_numel_iff.mpr ⟨indexable.column, indexable.count⟩
  have sizeExact : image.exactCount = size.toNat :=
    (numel_eq_ok_iff.mp counted).2
  have planeExact :
      image.width.toNat * image.height.toNat =
        (UInt64.ofNat image.exactPlane).toNat := by
    rw [UInt64.toNat_ofNat_of_lt' indexable.plane]
    exact Nat.mul_comm _ _
  have multiplied := Checked.mul_eq_ok_iff.mpr planeExact
  rw [toTensor, Tensor.zeros, Tensor.count_eq_numel, counted,
    Tensor.strides_eq, multiplied, zeroTensor, sizeExact]
  rfl

theorem toTensor_of_not_indexable {image : Image}
    (notIndexable : ¬ image.Indexable) :
    image.toTensor = .error .mulOverflow := by
  rw [toTensor, Tensor.zeros, Tensor.count_eq_numel, Tensor.strides_eq]
  cases counted : image.numel with
  | error fault =>
      obtain ⟨_, rfl⟩ := numel_eq_error_iff.mp counted
      rfl
  | ok size =>
      -- What can be counted is within two of the three limits already.
      obtain ⟨columnFits, countFits⟩ := exists_numel_iff.mp ⟨size, counted⟩
      have planeOver : wordCount ≤ image.exactPlane := by
        rcases not_indexable_iff.mp notIndexable with
          columnOver | countOver | planeOver
        · omega
        · omega
        · exact planeOver
      have swapped :
          wordCount ≤ image.width.toNat * image.height.toNat := by
        rw [Nat.mul_comm]
        exact planeOver
      have multiplied := Checked.mul_eq_error_iff.mpr ⟨swapped, rfl⟩
      rw [multiplied]
      rfl

theorem toTensor_eq_ok_iff {image : Image} {tensor : Tensor} :
    image.toTensor = .ok tensor ↔
      image.Indexable ∧
        Tensor.elementBytes * image.exactCount ≤ largestBlock ∧
        tensor = image.zeroTensor := by
  by_cases indexable : image.Indexable
  · rw [toTensor_of_indexable indexable]
    by_cases tooLarge :
        largestBlock < Tensor.elementBytes * image.exactCount
    · have notFits := Nat.not_le_of_lt tooLarge
      rw [if_pos tooLarge]
      simp only [notFits, reduceCtorEq, false_and, and_false]
    · have fits := Nat.le_of_not_lt tooLarge
      rw [if_neg tooLarge, Except.ok.injEq, eq_comm]
      simp only [indexable, fits, true_and]
  · rw [toTensor_of_not_indexable indexable]
    simp only [indexable, reduceCtorEq, false_and]

theorem toTensor_eq_error_iff {image : Image} {fault : Fault} :
    image.toTensor = .error fault ↔
      ¬ image.Indexable ∧ fault = .mulOverflow ∨
        image.Indexable ∧
          largestBlock < Tensor.elementBytes * image.exactCount ∧
          fault = .outOfMemory := by
  by_cases indexable : image.Indexable
  · rw [toTensor_of_indexable indexable]
    by_cases tooLarge :
        largestBlock < Tensor.elementBytes * image.exactCount
    · rw [if_pos tooLarge, Except.error.injEq, eq_comm]
      simp only [indexable, tooLarge, not_true_eq_false, true_and,
        false_and, false_or]
    · rw [if_neg tooLarge]
      simp only [indexable, tooLarge, reduceCtorEq, not_true_eq_false,
        true_and, false_and, or_false]
  · rw [toTensor_of_not_indexable indexable, Except.error.injEq, eq_comm]
    simp only [indexable, not_false_eq_true, true_and, false_and, or_false]

theorem toTensor_overflows_iff {image : Image} :
    image.toTensor = .error .mulOverflow ↔
      wordCount ≤ image.exactColumn ∨ wordCount ≤ image.exactCount ∨
        wordCount ≤ image.exactPlane := by
  rw [toTensor_eq_error_iff, ← not_indexable_iff]
  simp only [reduceCtorEq, and_true, and_false, or_false]

/-! ## The limit of the strides -/

theorem exactPlane_le_exactCount {image : Image}
    (someChannels : image.channels ≠ 0) :
    image.exactPlane ≤ image.exactCount := by
  have channelsPos : 0 < image.channels.toNat :=
    UInt64.pos_iff_ne_zero.mpr someChannels
  calc
    image.exactPlane ≤ image.channels.toNat * image.exactPlane :=
      Nat.le_mul_of_pos_left image.exactPlane channelsPos
    _ = image.exactCount := (Nat.mul_assoc _ _ _).symm

/-- With some channels the strides have no limit of their own. -/
theorem toTensor_overflows_iff_numel_faults {image : Image}
    (someChannels : image.channels ≠ 0) :
    image.toTensor = .error .mulOverflow ↔
      ∃ fault, image.numel = .error fault := by
  have planeLe := exactPlane_le_exactCount someChannels
  rw [toTensor_overflows_iff, exists_fault_numel_iff]
  omega

theorem numel_returns_and_toTensor_overflows_iff {image : Image} :
    (∃ count, image.numel = .ok count) ∧
        image.toTensor = .error .mulOverflow ↔
      image.channels = 0 ∧ wordCount ≤ image.exactPlane := by
  constructor
  · rintro ⟨⟨count, counted⟩, overflows⟩
    by_cases noChannels : image.channels = 0
    · obtain ⟨columnFits, countFits⟩ :=
        exists_numel_iff.mp ⟨count, counted⟩
      have someOver := toTensor_overflows_iff.mp overflows
      exact ⟨noChannels, by omega⟩
    · obtain ⟨fault, faulted⟩ :=
        (toTensor_overflows_iff_numel_faults noChannels).mp overflows
      rw [counted] at faulted
      cases faulted
  · rintro ⟨noChannels, planeOver⟩
    exact
      ⟨⟨0, numel_of_channels_or_height_eq_zero (Or.inl noChannels)⟩,
        toTensor_overflows_iff.mpr (Or.inr (Or.inr planeOver))⟩

end Image

/-- A tensor is refused because one of the products on the way to it is no word,
or else because its storage, four bytes an element, would have two to the power of
63 bytes or more; otherwise it is made in the shape of the image, with as many
elements as are counted, all of them zero.  With at least one channel the products
fail exactly when the count does, and the images that can be counted and still
overflow are those without channels whose height and width are too large together. -/
theorem toTensor_zeros_or_fault (image : Image) :
    (image.toTensor = .error .mulOverflow ↔
      wordCount ≤ image.exactColumn ∨ wordCount ≤ image.exactCount ∨
        wordCount ≤ image.exactPlane) ∧
    (image.toTensor = .error .outOfMemory ↔
      image.toTensor ≠ .error .mulOverflow ∧
        0x7FFFFFFFFFFFFFFF < 4 * image.exactCount) ∧
    ((∃ tensor, image.toTensor = .ok tensor) ↔
      image.toTensor ≠ .error .mulOverflow ∧
        4 * image.exactCount ≤ 0x7FFFFFFFFFFFFFFF) ∧
    (∀ tensor, image.toTensor = .ok tensor →
      tensor.shape = (image.channels, image.height, image.width) ∧
      (∃ count, image.numel = .ok count ∧
        tensor.entries.toList.length = count.toNat) ∧
      ∀ entry, entry ∈ tensor.entries.toList → entry = 0) ∧
    (1 ≤ image.channels →
      (image.toTensor = .error .mulOverflow ↔
        ∃ fault, image.numel = .error fault)) ∧
    ((∃ count, image.numel = .ok count) ∧
        image.toTensor = .error .mulOverflow ↔
      image.channels = 0 ∧ wordCount ≤ image.exactPlane) ∧
    Fault.mulOverflow.message = "attempt to multiply with overflow" ∧
    Fault.outOfMemory.message =
      "called `Result::unwrap()` on an `Err` value: OutOfMemory" := by
  have overflows_iff :
      image.toTensor = .error .mulOverflow ↔ ¬ image.Indexable := by
    rw [Image.toTensor_overflows_iff, Image.not_indexable_iff]
  refine ⟨Image.toTensor_overflows_iff, ?_, ?_, ?_, ?_,
    Image.numel_returns_and_toTensor_overflows_iff, rfl, rfl⟩
  · rw [ne_eq, overflows_iff, Classical.not_not,
      Image.toTensor_eq_error_iff]
    simp [Tensor.elementBytes, largestBlock]
  · rw [ne_eq, overflows_iff, Classical.not_not]
    simp only [Image.toTensor_eq_ok_iff, exists_and_left, exists_eq,
      and_true]
    rfl
  · intro tensor returned
    obtain ⟨indexable, _, rfl⟩ := Image.toTensor_eq_ok_iff.mp returned
    obtain ⟨count, counted⟩ :=
      exists_numel_iff.mpr ⟨indexable.column, indexable.count⟩
    refine ⟨rfl, ⟨count, counted, ?_⟩, ?_⟩
    · rw [Filled.length_toList]
      exact (numel_eq_ok_iff.mp counted).2
    · intro entry member
      exact List.eq_of_mem_replicate member
  · intro someChannel
    have someChannels : image.channels ≠ 0 := by
      intro noChannels
      rw [noChannels] at someChannel
      exact absurd someChannel (by decide)
    exact Image.toTensor_overflows_iff_numel_faults someChannels

/-- The largest tensor of a single channel with that width; an image of one channel
that is too large to be counted; and an image without channels whose height and
width alone are too large. -/
theorem toTensor_zeros_or_fault_at_limits :
    let largest : Image :=
      { channels := 1, height := 0x7FFFFFFF, width := 0x40000000 }
    let uncounted : Image :=
      { channels := 1, height := 0x100000000, width := 0x100000000 }
    let hollow : Image :=
      { channels := 0, height := 0x100000000, width := 0x100000000 }
    (∃ tensor, largest.toTensor = .ok tensor ∧
      tensor.shape = (1, 0x7FFFFFFF, 0x40000000) ∧
      (∃ count, largest.numel = .ok count ∧
        tensor.entries.toList.length = count.toNat) ∧
      ∀ entry, entry ∈ tensor.entries.toList → entry = 0) ∧
    1 ≤ uncounted.channels ∧
    uncounted.toTensor = .error .mulOverflow ∧
    (∃ fault, uncounted.numel = .error fault) ∧
    (∃ count, hollow.numel = .ok count) ∧
    hollow.toTensor = .error .mulOverflow := by
  intro largest uncounted hollow
  obtain ⟨overflows_iff, _, returns_iff, ofReturned, _⟩ :=
    toTensor_zeros_or_fault largest
  have notOverflows : largest.toTensor ≠ .error .mulOverflow := by
    rw [ne_eq, overflows_iff]
    decide
  obtain ⟨tensor, returned⟩ := returns_iff.mpr ⟨notOverflows, by decide⟩
  have someChannel : 1 ≤ uncounted.channels := by
    decide
  obtain ⟨uncounted_iff, _, _, _, ofChannels, _⟩ :=
    toTensor_zeros_or_fault uncounted
  have overflows := uncounted_iff.mpr (by decide)
  obtain ⟨_, _, _, _, _, hollow_iff, _⟩ := toTensor_zeros_or_fault hollow
  obtain ⟨hollowCounted, hollowOverflows⟩ :=
    hollow_iff.mpr ⟨rfl, by decide⟩
  exact
    ⟨⟨tensor, returned, ofReturned tensor returned⟩, someChannel, overflows,
      (ofChannels someChannel).mp overflows, hollowCounted,
      hollowOverflows⟩

end BlankImages
