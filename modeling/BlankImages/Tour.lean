import BlankImages.Dataset.Builder
import BlankImages.Dataset.Iteration
import BlankImages.Draws
import BlankImages.Image.Description
import BlankImages.Image.Tensor

/-!
# A tour of the library

Printing is modelled as the list of the lines that were printed before the tour
ended or was ended by a fault.
-/

namespace BlankImages

/-- The lines that a program has printed, and the fault that ended it, if any. -/
structure Printout where
  lines : List String
  fault? : Option Fault
  deriving DecidableEq, Repr

namespace Printout

def isComplete (printout : Printout) : Bool :=
  printout.fault?.isNone

def line (text : String) (rest : Printout) : Printout :=
  { rest with lines := text :: rest.lines }

def finished : Printout where
  lines := []
  fault? := none

def stopped (fault : Fault) : Printout where
  lines := []
  fault? := some fault

end Printout

namespace Tour

def classes : Word := 100

def table : LabelTable := LabelTable.cifar100

def samplesShown : Nat := 10

def tensorsShown : Nat := 4

def builder : Builder Unit Unit :=
  (Builder.start classes (Root.ofString "./datasets")).setAll
    [.train false, .download true]

def shapeText (shape : Word × Word × Word) : String :=
  Image.shapeText shape.1 shape.2.1 shape.2.2

def sizeLine (dataset : Dataset Unit Unit) : String :=
  toString dataset.size.toNat ++ " samples, " ++
    toString dataset.classes.toNat ++ " classes, image size " ++
    shapeText dataset.imageSize

def sampleLine (index : Word) (sample : Sample) (name : String) : String :=
  "img-" ++ toString index.toNat ++ ": shape=" ++ shapeText sample.image.shape ++
    " label=" ++ name

/-- The line about one tensor; the number of classes is fixed, and is printed
as a constant. -/
def tensorLine (tensor : Tensor) : String :=
  "tensor shape=" ++ shapeText tensor.shape ++ " one-hot shape=(Const,)"

def oneHot (label : Label) : Except Fault (List Float32) :=
  let zeros := List.replicate classes.toNat 0
  if label < classes then
    .ok (zeros.set label.toNat 1)
  else
    .error (.indexOutOfBounds classes.toNat label.toNat)

def preprocess (sample : Sample) : Except Fault (Tensor × List Float32) := do
  let row ← oneHot sample.label
  let tensor ← sample.image.toTensor
  return (tensor, row)

/-- Items of a visit, one for each drawn label. -/
def showTensors (visit : Iteration Unit Unit) : List Label → Printout
  | [] => .finished
  | drawn :: rest =>
      match visit.next drawn with
      | none => .finished
      | some (access, after) =>
          match access.outcome with
          | .error fault => .stopped fault
          | .ok sample =>
              match preprocess sample with
              | .error fault => .stopped fault
              | .ok (tensor, _) =>
                  .line (tensorLine tensor) (showTensors after rest)

/-- Samples with their names, one for each index and its drawn label, and then
what is printed about the collection as it is afterwards. -/
def showSamples (dataset : Dataset Unit Unit) (next : Dataset Unit Unit → Printout) :
    List (Word × Label) → Printout
  | [] => next dataset
  | (index, drawn) :: rest =>
      let (access, after) := Collection.get dataset index drawn
      match access.outcome with
      | .error fault => .stopped fault
      | .ok sample =>
          match table.name sample.label with
          | .error fault => .stopped fault
          | .ok name =>
              .line (sampleLine index sample name) (showSamples after next rest)

def run (draws : Draws) (shuffle : List Word → List Word) : Printout :=
  let dataset := builder.build
  let indices := (List.range samplesShown).map UInt64.ofNat
  .line (sizeLine dataset)
    (showSamples dataset
      (fun shown =>
        showTensors (Iteration.start shown (shuffle (Collection.indices shown)))
          (draws.segment samplesShown tensorsShown))
      (indices.zip (draws.segment 0 samplesShown)))

end Tour

end BlankImages
