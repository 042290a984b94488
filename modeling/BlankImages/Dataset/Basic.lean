import BlankImages.Image.Basic
import BlankImages.Label.Table
import BlankImages.Root
import BlankImages.Split
import BlankImages.Transform

/-!
# Collections of blank images

A collection is made of settings only: nothing is read from its root path, and
its samples come into being when they are asked for.
-/

namespace BlankImages

/-- A collection of labelled blank images.  The function on images keeps state
of type `σ`, the function on labels state of type `τ`. -/
structure Dataset (σ τ : Type) where
  classes : Word
  root : Root
  split : Split
  download : Bool
  imageTransform : Option (Transform σ Image)
  labelTransform : Option (Transform τ Label)

structure Sample where
  image : Image
  label : Label
  deriving DecidableEq, Repr

/-- A kind of collection whose items are made one at a time, each from an index
and a drawn value. -/
class Collection (δ : Type) (ε ι : outParam Type) where
  /-- The item at an index, and the collection as it is afterwards. -/
  get : δ → Word → ε → ι × δ
  size : δ → Word

namespace Collection

variable {δ ε ι : Type} [Collection δ ε ι]

def isEmpty (collection : δ) : Bool :=
  size collection == 0

def indices (collection : δ) : List Word :=
  (List.range (size collection).toNat).map UInt64.ofNat

@[simp]
theorem length_indices (collection : δ) :
    (indices collection).length = (size collection).toNat := by
  rw [indices, List.length_map, List.length_range]

theorem map_toNat_indices (collection : δ) :
    (indices collection).map UInt64.toNat =
      List.range (size collection).toNat := by
  rw [indices, List.map_map]
  calc
    (List.range (size collection).toNat).map (UInt64.toNat ∘ UInt64.ofNat) =
        (List.range (size collection).toNat).map id := by
      apply List.map_congr_left
      intro index member
      have below := List.mem_range.mp member
      exact
        UInt64.toNat_ofNat_of_lt'
          (Nat.lt_trans below (size collection).toNat_lt)
    _ = List.range (size collection).toNat := List.map_id _

end Collection

namespace Dataset

variable {σ τ : Type}

def size (dataset : Dataset σ τ) : Word :=
  dataset.split.size

def isEmpty (dataset : Dataset σ τ) : Bool :=
  dataset.size == 0

def isTrain (dataset : Dataset σ τ) : Bool :=
  dataset.split.isTrain

/-- The shape of an image before the caller's function sees it. -/
def imageSize (_dataset : Dataset σ τ) : Word × Word × Word :=
  Image.cifar.shape

def withSplit (dataset : Dataset σ τ) (split : Split) : Dataset σ τ :=
  { dataset with split }

def labelTable? (dataset : Dataset σ τ) : Option LabelTable :=
  LabelTable.forClasses? dataset.classes

end Dataset

end BlankImages
