import BlankImages.Dataset.Basic

/-!
# Building a collection

A setting replaces the earlier one of its kind.  Building records what is built,
and a remark when a download was asked for, since nothing is ever downloaded.
-/

namespace BlankImages

/-- A record made while a collection is built. -/
inductive Event where
  | building (classes : Word) (root : String) (split : Split)
  | downloadIgnored
  deriving DecidableEq, Repr

namespace Event

def level (_event : Event) : String := "DEBUG"

def message : Event → String
  | building .. => "building synthetic cifar dataset"
  | downloadIgnored => "download requested, ignoring for synthetic dataset"

end Event

inductive Setting (σ τ : Type) where
  | train (value : Bool)
  | download (value : Bool)
  | imageTransform (function : Transform σ Image)
  | labelTransform (function : Transform τ Label)

structure Builder (σ τ : Type) where
  classes : Word
  root : Root
  train : Bool
  download : Bool
  imageTransform : Option (Transform σ Image)
  labelTransform : Option (Transform τ Label)

namespace Builder

variable {σ τ : Type}

/-- The defaults: training data, no download, no functions. -/
def start (classes : Word) (root : Root) : Builder σ τ where
  classes := classes
  root := root
  train := true
  download := false
  imageTransform := none
  labelTransform := none

def set (builder : Builder σ τ) : Setting σ τ → Builder σ τ
  | .train value => { builder with train := value }
  | .download value => { builder with download := value }
  | .imageTransform function => { builder with imageTransform := some function }
  | .labelTransform function => { builder with labelTransform := some function }

def setAll (builder : Builder σ τ) (settings : List (Setting σ τ)) :
    Builder σ τ :=
  settings.foldl set builder

def split (builder : Builder σ τ) : Split :=
  Split.ofTrainFlag builder.train

def build (builder : Builder σ τ) : Dataset σ τ where
  classes := builder.classes
  root := builder.root
  split := builder.split
  download := builder.download
  imageTransform := builder.imageTransform
  labelTransform := builder.labelTransform

def events (builder : Builder σ τ) : List Event :=
  .building builder.classes builder.root.text builder.split ::
    if builder.download then [.downloadIgnored] else []

/-- The builder that stands for the short way of making a collection: a root
path and the choice of a half. -/
def plain (classes : Word) (root : Root) (train : Bool) : Builder σ τ :=
  (start classes root).set (.train train)

@[simp]
theorem setAll_cons (builder : Builder σ τ) (setting : Setting σ τ)
    (rest : List (Setting σ τ)) :
    builder.setAll (setting :: rest) = (builder.set setting).setAll rest :=
  rfl

end Builder

end BlankImages
