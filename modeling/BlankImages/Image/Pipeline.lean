import BlankImages.Image.Basic
import BlankImages.Pipeline

/-!
# Steps on images

Where a step computes two dimensions, the height is computed before the width.
-/

namespace BlankImages

inductive ImageStep where
  /-- Sets the dimensions that are given and keeps the others. -/
  | withShape (channels height width : Option Word)
  | cifar
  | swap
  /-- Moves the channels to the end. -/
  | rotate
  /-- One row that holds all elements. -/
  | flatten
  | scale (factor : Word)
  | crop (amount : Word)
  /-- Puts in place of the channels how often this step has run. -/
  | calls (before : Nat)
  | fail (text : String)
  deriving DecidableEq, Repr

namespace ImageStep

def answer : ImageStep → Image → Except Fault Image
  | withShape channels height width, image =>
      .ok
        (image.withShape (channels.getD image.channels)
          (height.getD image.height) (width.getD image.width))
  | cifar, _ => .ok Image.cifar
  | swap, image => .ok (image.withShape image.channels image.width image.height)
  | rotate, image => .ok (image.withShape image.height image.width image.channels)
  | flatten, image => do
      let size ← image.numel
      return image.withShape 1 1 size
  | scale factor, image => do
      let height ← Checked.mul image.height factor
      let width ← Checked.mul image.width factor
      return image.withShape image.channels height width
  | crop amount, image => do
      let height ← Checked.sub image.height amount
      let width ← Checked.sub image.width amount
      return image.withShape image.channels height width
  | calls before, image =>
      .ok (image.withShape (UInt64.ofNat (before + 1)) image.height image.width)
  | fail text, _ => .error (.raised text)

def advance : ImageStep → ImageStep
  | calls before => calls (before + 1)
  | step => step

instance : PipelineStep ImageStep Image where
  run step image := (step.answer image, step.advance)

end ImageStep

abbrev ImagePipeline := List ImageStep

end BlankImages
