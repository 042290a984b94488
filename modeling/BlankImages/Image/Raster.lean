import BlankImages.Image.Basic
import BlankImages.Image.Filled

/-!
# Raster images

A raster image has 32-bit dimensions and three bytes for every point.
-/

namespace BlankImages

/-- No block of storage is larger than this many bytes. -/
def largestBlock : Nat := 0x7FFFFFFFFFFFFFFF

structure Raster where
  width : UInt32
  height : UInt32
  buffer : Filled UInt8
  deriving DecidableEq, Repr

namespace Raster

def byteCount (width height : UInt32) : Nat :=
  3 * width.toNat * height.toNat

/-- The length of the buffer is checked against the words first and against the
largest block second. -/
def black (width height : UInt32) : Except Fault Raster :=
  let size := byteCount width height
  if Checked.wordCount ≤ size then
    .error .bufferTooLong
  else if largestBlock < size then
    .error .capacityOverflow
  else
    .ok { width, height, buffer := { value := 0, size } }

def isBlack (raster : Raster) : Bool :=
  raster.buffer.all (· == 0)

end Raster

namespace Image

/-- An image that has not three channels has no raster image.  Of the dimensions
the low 32 bits are kept. -/
def toRaster (image : Image) : Except Fault (Option Raster) :=
  if image.channels = 3 then
    (Raster.black image.width.toUInt32 image.height.toUInt32).map some
  else
    .ok none

end Image

end BlankImages
