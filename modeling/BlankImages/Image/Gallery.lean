import Std.Data.HashSet
import BlankImages.Image.Description
import BlankImages.Image.Tensor
import BlankImages.Transform

/-!
# Galleries

Images are added at the end of a gallery, and never changed or taken away.  A
command names an image by its number, or means the latest one.
-/

namespace BlankImages

structure Gallery where
  images : List Image
  deriving DecidableEq, Repr

namespace Gallery

def empty : Gallery := { images := [] }

/-- The image with a number, or the latest when no number is given. -/
def get? (gallery : Gallery) : Option Word → Option Image
  | none => gallery.images.getLast?
  | some number => gallery.images[number.toNat]?

def push (gallery : Gallery) (image : Image) : Gallery :=
  { images := gallery.images ++ [image] }

/-- The number of different images, counted by hashing. -/
def distinct (gallery : Gallery) : Nat :=
  (Std.HashSet.ofList gallery.images).size

@[simp]
theorem images_push (gallery : Gallery) (image : Image) :
    (gallery.push image).images = gallery.images ++ [image] :=
  rfl

/-! ## Commands -/

/-- What can be asked of a gallery.  The functions that are applied keep state
of type `σ`. -/
inductive Command (σ : Type) where
  | create (channels height width : Word)
  | cifar
  | default
  | withShape (on : Option Word) (channels height width : Word)
  | apply (on : Option Word) (function : Transform σ Image)
  | shape (on : Option Word)
  | numel (on : Option Word)
  | describe (on : Option Word)
  | raster (on : Option Word)
  | tensor (on : Option Word)
  | equal (on : Option Word) (other : Word)
  | distinct
  | all

inductive Reply where
  | made (image : Image)
  | faulted (fault : Fault)
  | shape (image : Image)
  | numel (count : Except Fault Word)
  | described (record : Record)
  | raster (outcome : Except Fault (Option Raster))
  | tensor (outcome : Except Fault Tensor)
  | equal (answer : Bool)
  | distinct (count : Nat)
  | all (images : List Image)

variable {σ : Type}

def make (gallery : Gallery) (image : Image) : Reply × Gallery :=
  (.made image, gallery.push image)

/-- Obey one command.  There is no answer when the command names an image that
the gallery does not hold. -/
def obey (gallery : Gallery) : Command σ → Option (Reply × Gallery)
  | .create channels height width =>
      some (gallery.make { channels, height, width })
  | .cifar => some (gallery.make Image.cifar)
  | .default => some (gallery.make Inhabited.default)
  | .withShape on channels height width => do
      let image ← gallery.get? on
      return gallery.make (image.withShape channels height width)
  | .apply on function => do
      let image ← gallery.get? on
      match (function.call image).1 with
      | .ok made => return gallery.make made
      | .error fault => return (.faulted fault, gallery)
  | .shape on => do
      let image ← gallery.get? on
      return (.shape image, gallery)
  | .numel on => do
      let image ← gallery.get? on
      return (.numel image.numel, gallery)
  | .describe on => do
      let image ← gallery.get? on
      return (.described image.record, gallery)
  | .raster on => do
      let image ← gallery.get? on
      return (.raster image.toRaster, gallery)
  | .tensor on => do
      let image ← gallery.get? on
      return (.tensor image.toTensor, gallery)
  | .equal on other => do
      let image ← gallery.get? on
      let otherImage ← gallery.get? (some other)
      return (.equal (image == otherImage), gallery)
  | .distinct => some (.distinct gallery.distinct, gallery)
  | .all => some (.all gallery.images, gallery)

def obeyAll (gallery : Gallery) : List (Command σ) → List Reply × Gallery
  | [] => ([], gallery)
  | command :: rest =>
      match gallery.obey command with
      | none => ([], gallery)
      | some (reply, after) =>
          let (replies, last) := after.obeyAll rest
          (reply :: replies, last)

end Gallery

end BlankImages
