import BlankImages.Dataset.Basic

/-!
# Accesses

One access draws a label, hands the blank image to the function on images, and
then hands the drawn label to the function on labels.  The first fault ends it.
-/

namespace BlankImages

/-- A call of one of the two functions, with the value it was given. -/
inductive Entry where
  | image (given : Image)
  | label (given : Label)
  deriving DecidableEq, Repr

/-- What one access came to, and the calls it made in order. -/
structure Access where
  outcome : Except Fault Sample
  entered : List Entry
  deriving DecidableEq, Repr

namespace Access

def receivedLabel? (access : Access) : Option Label :=
  access.entered.findSome? fun
    | .image _ => none
    | .label given => some given

def sample? (access : Access) : Option Sample :=
  access.outcome.toOption

def fault? (access : Access) : Option Fault :=
  match access.outcome with
  | .ok _ => none
  | .error fault => some fault

end Access

namespace Dataset

variable {σ τ : Type}

/-! ## The parts of an access -/

def makeImage (dataset : Dataset σ τ) : Except Fault Image × Dataset σ τ :=
  let (answer, after) := Transform.apply dataset.imageTransform Image.cifar
  (answer, { dataset with imageTransform := after })

def makeLabel (dataset : Dataset σ τ) (drawn : Label) :
    Except Fault Label × Dataset σ τ :=
  let (answer, after) := Transform.apply dataset.labelTransform drawn
  (answer, { dataset with labelTransform := after })

def imageEntries (dataset : Dataset σ τ) : List Entry :=
  if dataset.imageTransform.isSome then [.image Image.cifar] else []

def labelEntries (dataset : Dataset σ τ) (drawn : Label) : List Entry :=
  if dataset.labelTransform.isSome then [.label drawn] else []

/-! ## Whole accesses -/

/-- One access for which a label was drawn.  Without classes there is nothing
to draw, and neither function is called. -/
def access (dataset : Dataset σ τ) (drawn : Label) : Access × Dataset σ τ :=
  if dataset.classes = 0 then
    ({ outcome := .error .emptyRange, entered := [] }, dataset)
  else
    match dataset.makeImage with
    | (.error fault, imaged) =>
        ({ outcome := .error fault, entered := dataset.imageEntries }, imaged)
    | (.ok image, imaged) =>
        let entered := dataset.imageEntries ++ imaged.labelEntries drawn
        match imaged.makeLabel drawn with
        | (.error fault, labelled) =>
            ({ outcome := .error fault, entered }, labelled)
        | (.ok label, labelled) =>
            ({ outcome := .ok { image, label }, entered }, labelled)

/-- The sample at an index.  Samples are not stored, so the index has no part
in it, whether it is below the size or not. -/
def itemAt (dataset : Dataset σ τ) (_index : Word) (drawn : Label) :
    Access × Dataset σ τ :=
  dataset.access drawn

instance : Collection (Dataset σ τ) Label Access where
  get := itemAt
  size dataset := dataset.split.size

/-- Accesses one after the other, put behind those that are done; the latest of
these comes first. -/
def accessOnto (dataset : Dataset σ τ) (done : List Access) :
    List Label → List Access × Dataset σ τ
  | [] => (done.reverse, dataset)
  | drawn :: rest =>
      let (access, after) := dataset.access drawn
      after.accessOnto (access :: done) rest

def accessAll (dataset : Dataset σ τ) (draws : List Label) :
    List Access × Dataset σ τ :=
  dataset.accessOnto [] draws

theorem accessOnto_eq (dataset : Dataset σ τ) (done : List Access)
    (draws : List Label) :
    dataset.accessOnto done draws =
      (done.reverse ++ (dataset.accessAll draws).1, (dataset.accessAll draws).2) := by
  induction draws generalizing dataset done with
  | nil =>
      simp [accessOnto, accessAll]
  | cons drawn rest inductionHypothesis =>
      unfold accessAll accessOnto
      dsimp only
      rw [inductionHypothesis, inductionHypothesis _ [_]]
      simp

@[simp]
theorem accessAll_nil (dataset : Dataset σ τ) :
    dataset.accessAll [] = ([], dataset) :=
  rfl

@[simp]
theorem accessAll_cons (dataset : Dataset σ τ) (drawn : Label)
    (rest : List Label) :
    dataset.accessAll (drawn :: rest) =
      ((dataset.access drawn).1 :: ((dataset.access drawn).2.accessAll rest).1,
        ((dataset.access drawn).2.accessAll rest).2) := by
  unfold accessAll
  rw [accessOnto]
  simp only
  rw [accessOnto_eq]
  rfl

/-! ## Agreement -/

/-- Whether the label of an access is the one that it must be: what reached the
function on labels is a class, and what was answered is the value of that
function, both as they were before the access. -/
def labelAgrees (dataset : Dataset σ τ) (access : Access) : Bool :=
  match access.outcome with
  | .error _ => false
  | .ok sample =>
      let received := access.receivedLabel?.getD sample.label
      received < dataset.classes &&
        (Transform.apply dataset.labelTransform received).1 == .ok sample.label

end Dataset

end BlankImages
