import BlankImages.Image.Raster

/-!
# The size of a raster image

An image has dimensions of 64 bits and a raster image has dimensions of 32, and
nothing is said when an image is too large for it: the upper bits are dropped.
So the raster image of an image is black in any case, and it has the size of the
image exactly when both dimensions have 32 bits.
-/

namespace BlankImages

namespace Raster

/-- How many values a dimension of a raster image can have: two to the power
of 32. -/
def dimensionCount : Nat := 0x100000000

theorem toNat_toUInt32 (dimension : Word) :
    dimension.toUInt32.toNat = dimension.toNat % dimensionCount :=
  UInt64.toNat_toUInt32 dimension

theorem toNat_toUInt32_eq_iff (dimension : Word) :
    dimension.toUInt32.toNat = dimension.toNat ↔
      dimension.toNat < dimensionCount := by
  rw [toNat_toUInt32]
  constructor
  · intro kept
    rw [← kept]
    exact Nat.mod_lt _ (by decide)
  · intro small
    exact Nat.mod_eq_of_lt small

theorem toNat_toUInt32_le (dimension : Word) :
    dimension.toUInt32.toNat ≤ dimension.toNat := by
  rw [toNat_toUInt32]
  exact Nat.mod_le _ _

theorem black_eq_ok_iff {width height : UInt32} {raster : Raster} :
    black width height = .ok raster ↔
      byteCount width height ≤ largestBlock ∧
        raster =
          { width, height
            buffer := { value := 0, size := byteCount width height } } := by
  -- The largest block is smaller than the number of words, so a length within
  -- it has passed the first check as well.
  have blockSmall : largestBlock < Checked.wordCount := by
    decide
  unfold black
  dsimp only
  by_cases tooLong : Checked.wordCount ≤ byteCount width height
  · rw [if_pos tooLong]
    simp only [reduceCtorEq, false_iff, not_and]
    omega
  · rw [if_neg tooLong]
    by_cases tooLarge : largestBlock < byteCount width height
    · rw [if_pos tooLarge]
      simp only [reduceCtorEq, false_iff, not_and]
      omega
    · rw [if_neg tooLarge, Except.ok.injEq, eq_comm]
      have fits : byteCount width height ≤ largestBlock :=
        Nat.le_of_not_lt tooLarge
      exact ⟨fun same => ⟨fits, same⟩, fun both => both.2⟩

/-- A raster image has the size of an image, as exact numbers: the dimensions,
and a byte for every element. -/
structure SameSize (raster : Raster) (image : Image) : Prop where
  width : raster.width.toNat = image.width.toNat
  height : raster.height.toNat = image.height.toNat
  bytes :
    raster.buffer.toList.length =
      image.channels.toNat * image.height.toNat * image.width.toNat

end Raster

namespace Image

theorem toRaster_eq_some_iff {image : Image} {raster : Raster} :
    image.toRaster = .ok (some raster) ↔
      image.channels = 3 ∧
        Raster.black image.width.toUInt32 image.height.toUInt32 =
          .ok raster := by
  unfold toRaster
  by_cases coloured : image.channels = 3
  · rw [if_pos coloured]
    cases Raster.black image.width.toUInt32 image.height.toUInt32 with
    | error fault =>
        simp [coloured, Except.map]
    | ok made =>
        simp [coloured, Except.map]
  · rw [if_neg coloured]
    simp [coloured]

end Image

open Raster (dimensionCount SameSize toNat_toUInt32_eq_iff toNat_toUInt32_le)

/-- Cutting down a dimension loses points, unless there are none. -/
theorem Raster.points_eq_iff (width height : Word) :
    width.toUInt32.toNat * height.toUInt32.toNat =
        width.toNat * height.toNat ↔
      width.toNat < dimensionCount ∧ height.toNat < dimensionCount ∨
        width = 0 ∨ height = 0 := by
  have widthLe := toNat_toUInt32_le width
  have heightLe := toNat_toUInt32_le height
  constructor
  · intro samePoints
    by_cases noWidth : width = 0
    · exact Or.inr (Or.inl noWidth)
    · by_cases noHeight : height = 0
      · exact Or.inr (Or.inr noHeight)
      · have widthPos : 0 < width.toNat :=
          UInt64.pos_iff_ne_zero.mpr noWidth
        have heightPos : 0 < height.toNat :=
          UInt64.pos_iff_ne_zero.mpr noHeight
        rcases Nat.lt_or_eq_of_le widthLe with fewer | widthKept
        · have lost := Nat.mul_lt_mul_of_lt_of_le fewer heightLe heightPos
          omega
        · rcases Nat.lt_or_eq_of_le heightLe with fewer | heightKept
          · have lost := Nat.mul_lt_mul_of_le_of_lt widthLe fewer widthPos
            omega
          · exact
              Or.inl
                ⟨(toNat_toUInt32_eq_iff width).mp widthKept,
                  (toNat_toUInt32_eq_iff height).mp heightKept⟩
  · rintro (⟨widthSmall, heightSmall⟩ | rfl | rfl)
    · rw [(toNat_toUInt32_eq_iff width).mpr widthSmall,
        (toNat_toUInt32_eq_iff height).mpr heightSmall]
    · simp
    · simp

/-- An image of three channels has a raster image unless the buffer has two to the
power of 63 bytes or more.  The raster image is black and has the size of the image
exactly when both dimensions have 32 bits; of the parts of the size, each dimension
is kept exactly when it has 32 bits itself, and the number of bytes is right by
accident for an image without points. -/
theorem toRaster_sameSize_iff (image : Image) :
    ((∃ raster, image.toRaster = .ok (some raster)) ↔
      image.channels = 3 ∧
        3 * image.width.toUInt32.toNat * image.height.toUInt32.toNat ≤
          0x7FFFFFFFFFFFFFFF) ∧
    ∀ raster, image.toRaster = .ok (some raster) →
      (∀ byte, byte ∈ raster.buffer.toList → byte = 0) ∧
      (SameSize raster image ↔
        image.width.toNat < dimensionCount ∧
          image.height.toNat < dimensionCount) ∧
      (raster.width.toNat = image.width.toNat ↔
        image.width.toNat < dimensionCount) ∧
      (raster.height.toNat = image.height.toNat ↔
        image.height.toNat < dimensionCount) ∧
      (raster.buffer.toList.length =
          image.channels.toNat * image.height.toNat * image.width.toNat ↔
        image.width.toNat < dimensionCount ∧
            image.height.toNat < dimensionCount ∨
          image.width = 0 ∨ image.height = 0) := by
  constructor
  · simp only [Image.toRaster_eq_some_iff, Raster.black_eq_ok_iff,
      exists_and_left, exists_eq, and_true]
    rfl
  · intro raster returned
    obtain ⟨coloured, isBlack⟩ := Image.toRaster_eq_some_iff.mp returned
    obtain ⟨_, rfl⟩ := Raster.black_eq_ok_iff.mp isBlack
    have threeChannels : image.channels.toNat = 3 := by
      rw [coloured]
      rfl
    have bytes_iff :
        3 * image.width.toUInt32.toNat * image.height.toUInt32.toNat =
            3 * image.height.toNat * image.width.toNat ↔
          image.width.toNat < dimensionCount ∧
              image.height.toNat < dimensionCount ∨
            image.width = 0 ∨ image.height = 0 := by
      rw [← Raster.points_eq_iff, Nat.mul_assoc, Nat.mul_assoc,
        Nat.mul_comm image.height.toNat]
      exact Nat.mul_right_inj (by decide)
    refine ⟨?_, ?_, toNat_toUInt32_eq_iff _, toNat_toUInt32_eq_iff _, ?_⟩
    · intro byte member
      exact List.eq_of_mem_replicate member
    · constructor
      · intro same
        exact
          ⟨(toNat_toUInt32_eq_iff _).mp same.width,
            (toNat_toUInt32_eq_iff _).mp same.height⟩
      · rintro ⟨widthSmall, heightSmall⟩
        refine
          ⟨(toNat_toUInt32_eq_iff _).mpr widthSmall,
            (toNat_toUInt32_eq_iff _).mpr heightSmall, ?_⟩
        rw [Filled.length_toList, threeChannels]
        exact bytes_iff.mpr (Or.inl ⟨widthSmall, heightSmall⟩)
    · rw [Filled.length_toList, threeChannels]
      exact bytes_iff

theorem toRaster_sameSize_of_widest :
    let image : Image := { channels := 3, height := 7, width := 0xFFFFFFFF }
    let raster : Raster :=
      { width := 0xFFFFFFFF
        height := 7
        buffer := { value := 0, size := 3 * 0xFFFFFFFF * 7 } }
    image.toRaster = .ok (some raster) ∧
      SameSize raster image ∧
      ∀ byte, byte ∈ raster.buffer.toList → byte = 0 := by
  intro image raster
  have returned : image.toRaster = .ok (some raster) := by
    decide
  obtain ⟨zeros, sameSize, _⟩ :=
    (toRaster_sameSize_iff image).2 raster returned
  exact ⟨returned, sameSize.mpr ⟨by decide, by decide⟩, zeros⟩

/-- One column more than a dimension of 32 bits can count: all but one are lost. -/
theorem toRaster_loses_columns :
    let image : Image := { channels := 3, height := 1, width := 0x100000001 }
    ∃ raster, image.toRaster = .ok (some raster) ∧
      raster.width = 1 ∧ raster.height = 1 ∧ raster.buffer.size = 3 ∧
      ¬ SameSize raster image := by
  intro image
  refine
    ⟨{ width := 1, height := 1, buffer := { value := 0, size := 3 } },
      by decide, rfl, rfl, rfl, ?_⟩
  intro same
  exact absurd same.width (by decide)

end BlankImages
