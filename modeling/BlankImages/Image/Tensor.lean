import BlankImages.Image.Raster

/-!
# Tensors

Making a tensor counts the elements, then computes the distances between
neighbours in storage, then asks for the storage; each of the three can fail.
-/

namespace BlankImages

structure Tensor where
  shape : Word × Word × Word
  entries : Filled Float32

namespace Tensor

/-- The number of elements, multiplied from the left starting at one. -/
def count (channels height width : Word) : Except Fault Word := do
  let planes ← Checked.mul 1 channels
  let columns ← Checked.mul planes height
  Checked.mul columns width

/-- The distance in storage between neighbours along channels, height and
width.  The number of channels has no part in it. -/
def strides (height width : Word) : Except Fault (Word × Word × Word) := do
  let row ← Checked.mul 1 width
  let plane ← Checked.mul row height
  return (plane, row, 1)

def elementBytes : Nat := 4

def zeros (channels height width : Word) : Except Fault Tensor := do
  let size ← count channels height width
  let _ ← strides height width
  if largestBlock < elementBytes * size.toNat then
    .error .outOfMemory
  else
    .ok
      { shape := (channels, height, width)
        entries := { value := 0, size := size.toNat } }

def isZero (tensor : Tensor) : Bool :=
  tensor.entries.all (· == 0)

end Tensor

namespace Image

def toTensor (image : Image) : Except Fault Tensor :=
  Tensor.zeros image.channels image.height image.width

end Image

end BlankImages
