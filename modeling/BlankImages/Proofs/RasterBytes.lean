import BlankImages.Proofs.RasterSize
import BlankImages.Proofs.TensorSize

/-!
# The bytes of a raster image

An image of three channels has a raster image unless its buffer is too long, and
the length of the buffer is checked twice: against the words, and then against the
largest block.  Both checks see the dimensions cut down to 32 bits.  As long as
nothing is cut off, the buffer has a byte for every element of the image, so the
checks can be told from the count of the elements, and whatever is small enough
for a tensor, with four bytes an element, is small enough for a raster image.
-/

namespace BlankImages

open Checked (wordCount)
open Raster (byteCount dimensionCount toNat_toUInt32 toNat_toUInt32_eq_iff
  toNat_toUInt32_le)

/-! ## When there is no raster image -/

theorem Raster.black_eq_error_iff {width height : UInt32} {fault : Fault} :
    black width height = .error fault ↔
      wordCount ≤ byteCount width height ∧ fault = .bufferTooLong ∨
        byteCount width height < wordCount ∧
          largestBlock < byteCount width height ∧
          fault = .capacityOverflow := by
  unfold black
  dsimp only
  by_cases tooLong : wordCount ≤ byteCount width height
  · have notFits := Nat.not_lt_of_le tooLong
    rw [if_pos tooLong, Except.error.injEq, eq_comm]
    simp only [tooLong, notFits, true_and, false_and, or_false]
  · have fits := Nat.lt_of_not_le tooLong
    rw [if_neg tooLong]
    by_cases tooLarge : largestBlock < byteCount width height
    · rw [if_pos tooLarge, Except.error.injEq, eq_comm]
      simp only [tooLong, fits, tooLarge, true_and, false_and, false_or]
    · rw [if_neg tooLarge]
      simp only [tooLong, tooLarge, reduceCtorEq, false_and, and_false,
        or_self]

namespace Image

variable {image : Image}

theorem toRaster_eq_none_iff :
    image.toRaster = .ok none ↔ image.channels ≠ 3 := by
  unfold toRaster
  by_cases coloured : image.channels = 3
  · rw [if_pos coloured]
    cases Raster.black image.width.toUInt32 image.height.toUInt32 <;>
      simp [coloured, Except.map]
  · rw [if_neg coloured]
    simp only [ne_eq, coloured, not_false_eq_true]

theorem toRaster_eq_error_iff {fault : Fault} :
    image.toRaster = .error fault ↔
      image.channels = 3 ∧
        Raster.black image.width.toUInt32 image.height.toUInt32 =
          .error fault := by
  unfold toRaster
  by_cases coloured : image.channels = 3
  · rw [if_pos coloured]
    cases Raster.black image.width.toUInt32 image.height.toUInt32 <;>
      simp [coloured, Except.map]
  · rw [if_neg coloured]
    simp only [coloured, reduceCtorEq, false_and]

/-! ## The length of the buffer -/

def bufferLength (image : Image) : Nat :=
  byteCount image.width.toUInt32 image.height.toUInt32

theorem bufferLength_eq (image : Image) :
    image.bufferLength =
      3 * (image.width.toNat % dimensionCount) *
        (image.height.toNat % dimensionCount) := by
  rw [bufferLength, byteCount, toNat_toUInt32, toNat_toUInt32]

theorem toRaster_tooLong_iff :
    image.toRaster = .error .bufferTooLong ↔
      image.channels = 3 ∧ wordCount ≤ image.bufferLength := by
  rw [toRaster_eq_error_iff, Raster.black_eq_error_iff]
  simp only [bufferLength, reduceCtorEq, and_true, and_false, or_false]

theorem toRaster_tooLarge_iff :
    image.toRaster = .error .capacityOverflow ↔
      image.channels = 3 ∧ image.bufferLength < wordCount ∧
        largestBlock < image.bufferLength := by
  rw [toRaster_eq_error_iff, Raster.black_eq_error_iff]
  simp only [bufferLength, reduceCtorEq, and_true, and_false, false_or]

theorem toRaster_eq_black_iff {raster : Raster} :
    image.toRaster = .ok (some raster) ↔
      image.channels = 3 ∧ image.bufferLength ≤ largestBlock ∧
        raster =
          { width := image.width.toUInt32
            height := image.height.toUInt32
            buffer := { value := 0, size := image.bufferLength } } := by
  rw [toRaster_eq_some_iff, Raster.black_eq_ok_iff]
  rfl

theorem exists_toRaster_iff :
    (∃ raster, image.toRaster = .ok (some raster)) ↔
      image.channels = 3 ∧ image.bufferLength ≤ largestBlock := by
  simp only [toRaster_eq_black_iff, exists_and_left, exists_eq, and_true]

/-! ## Images that fit into 32 bits -/

/-- Nothing is cut off the dimensions of an image of three channels when it is
made into a raster image. -/
structure Rasterable (image : Image) : Prop where
  coloured : image.channels = 3
  width : image.width.toNat < dimensionCount
  height : image.height.toNat < dimensionCount

namespace Rasterable

theorem bufferLength_eq_exactCount (rasterable : image.Rasterable) :
    image.bufferLength = image.exactCount := by
  have widthKept := (toNat_toUInt32_eq_iff _).mpr rasterable.width
  have heightKept := (toNat_toUInt32_eq_iff _).mpr rasterable.height
  rw [bufferLength, byteCount, widthKept, heightKept, exactCount,
    rasterable.coloured]
  exact Nat.mul_right_comm 3 image.width.toNat image.height.toNat

/-- Three times a height of 32 bits is a word, so the second product of the count
decides alone. -/
theorem exactColumn_lt (rasterable : image.Rasterable) :
    image.exactColumn < wordCount := by
  have heightSmall := rasterable.height
  have columnExact : image.exactColumn = 3 * image.height.toNat := by
    rw [exactColumn, rasterable.coloured]
    rfl
  unfold dimensionCount at heightSmall
  unfold wordCount
  omega

theorem tooLong_iff_numel_faults (rasterable : image.Rasterable) :
    image.toRaster = .error .bufferTooLong ↔
      ∃ fault, image.numel = .error fault := by
  have columnFits := rasterable.exactColumn_lt
  have columnNotOver := Nat.not_le_of_lt columnFits
  rw [toRaster_tooLong_iff, exists_fault_numel_iff,
    rasterable.bufferLength_eq_exactCount]
  simp only [rasterable.coloured, columnNotOver, true_and, false_or]

theorem bufferLength_of_numel (rasterable : image.Rasterable)
    {count : Word} (counted : image.numel = .ok count) :
    image.bufferLength = count.toNat := by
  rw [rasterable.bufferLength_eq_exactCount]
  exact (numel_eq_ok_iff.mp counted).2

theorem tooLarge_iff_of_numel (rasterable : image.Rasterable)
    {count : Word} (counted : image.numel = .ok count) :
    image.toRaster = .error .capacityOverflow ↔
      largestBlock < count.toNat := by
  have lengthEq := rasterable.bufferLength_of_numel counted
  have countFits : count.toNat < wordCount := count.toNat_lt
  rw [toRaster_tooLarge_iff, lengthEq]
  simp only [rasterable.coloured, countFits, true_and]

theorem exists_toRaster_of_count (rasterable : image.Rasterable)
    {count : Word} (counted : image.numel = .ok count)
    (fits : count.toNat ≤ largestBlock) :
    ∃ raster, image.toRaster = .ok (some raster) ∧
      raster.buffer.toList.length = count.toNat := by
  have lengthEq := rasterable.bufferLength_of_numel counted
  refine
    ⟨_, toRaster_eq_black_iff.mpr ⟨rasterable.coloured, ?_, rfl⟩, ?_⟩
  · rw [lengthEq]
    exact fits
  · rw [Filled.length_toList]
    exact lengthEq

theorem exists_toRaster_of_toTensor (rasterable : image.Rasterable)
    {tensor : Tensor} (returned : image.toTensor = .ok tensor) :
    ∃ raster, image.toRaster = .ok (some raster) ∧
      raster.buffer.toList.length = tensor.entries.toList.length := by
  obtain ⟨indexable, storageFits, rfl⟩ := toTensor_eq_ok_iff.mp returned
  obtain ⟨count, counted⟩ :=
    exists_numel_iff.mpr ⟨indexable.column, indexable.count⟩
  have countExact := (numel_eq_ok_iff.mp counted).2
  have countFits : count.toNat ≤ largestBlock := by
    rw [Tensor.elementBytes] at storageFits
    omega
  obtain ⟨raster, made, length⟩ :=
    rasterable.exists_toRaster_of_count counted countFits
  refine ⟨raster, made, ?_⟩
  rw [length, Filled.length_toList]
  exact countExact.symm

end Rasterable

end Image

/-- An image has no raster image, and no fault either, unless it has three
channels.  With three channels and the low 32 bits of its dimensions, the buffer
is refused as too long for a word, or else as too large for a block, which has less
than two to the power of 63 bytes; otherwise the raster image has these dimensions
and a zero for each of its bytes.  For images whose dimensions have 32 bits this
ties in with the count of the elements and with the tensor. -/
theorem toRaster_black_or_fault (image : Image) :
    let width := image.width.toNat % dimensionCount
    let height := image.height.toNat % dimensionCount
    let length := 3 * width * height
    (image.toRaster = .ok none ↔ image.channels ≠ 3) ∧
    (image.toRaster = .error .bufferTooLong ↔
      image.channels = 3 ∧ wordCount ≤ length) ∧
    (image.toRaster = .error .capacityOverflow ↔
      image.channels = 3 ∧ length < wordCount ∧ 0x7FFFFFFFFFFFFFFF < length) ∧
    ((∃ raster, image.toRaster = .ok (some raster)) ↔
      image.channels = 3 ∧ length ≤ 0x7FFFFFFFFFFFFFFF) ∧
    (∀ raster, image.toRaster = .ok (some raster) →
      raster.width.toNat = width ∧ raster.height.toNat = height ∧
      raster.buffer.toList = List.replicate length 0) ∧
    (image.channels = 3 → image.width.toNat < dimensionCount →
      image.height.toNat < dimensionCount →
        (image.toRaster = .error .bufferTooLong ↔
          ∃ fault, image.numel = .error fault) ∧
        (∀ count, image.numel = .ok count →
          (image.toRaster = .error .capacityOverflow ↔
            0x7FFFFFFFFFFFFFFF < count.toNat) ∧
          (count.toNat ≤ 0x7FFFFFFFFFFFFFFF →
            ∃ raster, image.toRaster = .ok (some raster) ∧
              raster.buffer.toList.length = count.toNat)) ∧
        ∀ tensor, image.toTensor = .ok tensor →
          ∃ raster, image.toRaster = .ok (some raster) ∧
            raster.buffer.toList.length =
              tensor.entries.toList.length) ∧
    Fault.bufferTooLong.message =
      "Buffer length in `ImageBuffer::new` overflows usize" ∧
    Fault.capacityOverflow.message = "capacity overflow" := by
  intro width height length
  have lengthEq : image.bufferLength = length := image.bufferLength_eq
  rw [← lengthEq]
  refine ⟨Image.toRaster_eq_none_iff, Image.toRaster_tooLong_iff,
    Image.toRaster_tooLarge_iff, Image.exists_toRaster_iff, ?_, ?_, rfl, rfl⟩
  · intro raster made
    obtain ⟨_, _, rfl⟩ := Image.toRaster_eq_black_iff.mp made
    exact ⟨toNat_toUInt32 image.width, toNat_toUInt32 image.height, rfl⟩
  · intro coloured widthSmall heightSmall
    have rasterable : image.Rasterable :=
      ⟨coloured, widthSmall, heightSmall⟩
    refine ⟨rasterable.tooLong_iff_numel_faults, ?_, ?_⟩
    · intro count counted
      exact
        ⟨rasterable.tooLarge_iff_of_numel counted,
          rasterable.exists_toRaster_of_count counted⟩
    · intro tensor returned
      exact rasterable.exists_toRaster_of_toTensor returned

/-- An image whose height is cut down; one that is small enough for a tensor; a
square whose count is a word and larger than a block; and the largest square of 32
bits, whose count is no word. -/
theorem toRaster_black_or_fault_of_squares :
    let cut : Image := { channels := 3, height := 0x100000002, width := 5 }
    let small : Image := { channels := 3, height := 7, width := 5 }
    let square : Image :=
      { channels := 3, height := 0x80000000, width := 0x80000000 }
    let widest : Image :=
      { channels := 3, height := 0xFFFFFFFF, width := 0xFFFFFFFF }
    (∃ raster, cut.toRaster = .ok (some raster) ∧
      raster.width.toNat = 5 ∧ raster.height.toNat = 2 ∧
      raster.buffer.toList = List.replicate 30 0) ∧
    (∃ tensor, small.toTensor = .ok tensor ∧
      ∃ raster, small.toRaster = .ok (some raster) ∧
        raster.buffer.toList.length = tensor.entries.toList.length) ∧
    (∃ raster, small.toRaster = .ok (some raster) ∧
      raster.buffer.toList.length = 105) ∧
    square.numel = .ok 0xC000000000000000 ∧
    square.toRaster = .error .capacityOverflow ∧
    (∃ fault, widest.numel = .error fault) ∧
    widest.toRaster = .error .bufferTooLong := by
  intro cut small square widest
  obtain ⟨_, _, _, cutReturns_iff, ofCut, _⟩ := toRaster_black_or_fault cut
  obtain ⟨cutRaster, cutReturned⟩ :=
    cutReturns_iff.mpr ⟨rfl, by decide⟩
  have cutShown := ofCut cutRaster cutReturned
  have widthKept : cut.width.toNat % dimensionCount = 5 := by
    decide
  have heightCut : cut.height.toNat % dimensionCount = 2 := by
    decide
  rw [widthKept, heightCut] at cutShown
  obtain ⟨_, _, _, _, _, ofSmall, _⟩ := toRaster_black_or_fault small
  obtain ⟨_, smallCounted, smallTensor⟩ :=
    ofSmall rfl (by decide) (by decide)
  have counted : small.numel = .ok 105 := by
    decide
  have returned : small.toTensor = .ok small.zeroTensor :=
    rfl
  obtain ⟨_, _, _, _, _, ofSquare, _⟩ := toRaster_black_or_fault square
  obtain ⟨_, squareCounted, _⟩ := ofSquare rfl (by decide) (by decide)
  have squareWord : square.numel = .ok 0xC000000000000000 := by
    decide
  obtain ⟨_, _, _, _, _, ofWidest, _⟩ := toRaster_black_or_fault widest
  obtain ⟨tooLong_iff, _⟩ := ofWidest rfl (by decide) (by decide)
  have widestFaults : ∃ fault, widest.numel = .error fault :=
    ⟨.mulOverflow, by decide⟩
  exact
    ⟨⟨cutRaster, cutReturned, cutShown⟩,
      ⟨small.zeroTensor, returned, smallTensor _ returned⟩,
      (smallCounted 105 counted).2 (by decide), squareWord,
      (squareCounted _ squareWord).1.mpr (by decide), widestFaults,
      tooLong_iff.mpr widestFaults⟩

end BlankImages
