import BlankImages.Dataset.Basic
import BlankImages.Image.Pipeline
import BlankImages.Label.Pipeline

/-!
# Labels that do not depend on the draw
-/

namespace BlankImages.Dataset

def drawIsSettled {σ τ : Type} (dataset : Dataset σ τ) : Bool :=
  dataset.classes == 1

def labelIsSettled (dataset : Dataset ImagePipeline LabelPipeline) : Bool :=
  dataset.drawIsSettled ||
    match dataset.labelTransform with
    | none => false
    | some function => LabelPipeline.forgetsLabel function.state

end BlankImages.Dataset
