import BlankImages.Dataset.Builder
import BlankImages.Text.Record

/-!
# The texts of collections and builders

Of the two functions only their presence is shown.
-/

namespace BlankImages

def Transform.field {σ α : Type} (label : String)
    (slot : Option (Transform σ α)) : String × FieldText :=
  (label, .slot (slot.map fun _ => Transform.text))

namespace Dataset

variable {σ τ : Type}

def record (dataset : Dataset σ τ) : Record where
  name := "SyntheticCifar"
  fields :=
    [ ("root", .plain dataset.root.quoted),
      ("split", .plain dataset.split.text),
      Record.flag "download" dataset.download,
      Transform.field "transform" dataset.imageTransform,
      Transform.field "target_transform" dataset.labelTransform ]

end Dataset

namespace Builder

variable {σ τ : Type}

def record (builder : Builder σ τ) : Record where
  name := "SyntheticCifarBuilder"
  fields :=
    [ ("root", .plain builder.root.quoted),
      Record.flag "train" builder.train,
      Record.flag "download" builder.download,
      Transform.field "transform" builder.imageTransform,
      Transform.field "target_transform" builder.labelTransform ]

end Builder

end BlankImages
