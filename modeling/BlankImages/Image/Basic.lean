import BlankImages.Checked

/-!
# Blank images

A blank image knows its three dimensions and nothing else.
-/

namespace BlankImages

structure Image where
  channels : Word
  height : Word
  width : Word
  deriving DecidableEq, Hashable, Repr

namespace Image

/-- A colour image of 32 by 32 points, the size of every CIFAR picture. -/
def cifar : Image :=
  { channels := 3, height := 32, width := 32 }

instance : Inhabited Image := ⟨cifar⟩

def shape (image : Image) : Word × Word × Word :=
  (image.channels, image.height, image.width)

/-- The image with other dimensions; nothing of the old one is kept. -/
def withShape (_image : Image) (channels height width : Word) : Image :=
  { channels, height, width }

/-- The number of elements, multiplied from the left: a product of channels
and height that is no word is a fault even when the width is zero. -/
def numel (image : Image) : Except Fault Word := do
  let column ← Checked.mul image.channels image.height
  Checked.mul column image.width

theorem shape_inj {left right : Image} :
    left.shape = right.shape ↔ left = right := by
  cases left
  cases right
  simp [shape]

end Image

end BlankImages
