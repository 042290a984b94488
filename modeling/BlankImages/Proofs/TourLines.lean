import BlankImages.Proofs.AccessOutcome
import BlankImages.Tour

/-!
# The lines of the tour

The tour is put together from steps that can fault: names are looked up, rows are
written into, and tensors are made.  None of them does on this tour, since its
collection has no functions, every drawn label belongs to one of its classes, and
its images are small.  What is printed then depends on the first ten draws alone.
-/

namespace BlankImages

namespace Printout

def linesThen (texts : List String) (rest : Printout) : Printout :=
  texts.foldr line rest

@[simp]
theorem linesThen_cons (text : String) (texts : List String)
    (rest : Printout) :
    linesThen (text :: texts) rest = line text (linesThen texts rest) :=
  rfl

@[simp]
theorem lines_linesThen (texts : List String) (rest : Printout) :
    (linesThen texts rest).lines = texts ++ rest.lines := by
  induction texts with
  | nil =>
      rfl
  | cons text texts inductionHypothesis =>
      rw [linesThen_cons, line, inductionHypothesis, List.cons_append]

@[simp]
theorem fault?_linesThen (texts : List String) (rest : Printout) :
    (linesThen texts rest).fault? = rest.fault? := by
  induction texts with
  | nil =>
      rfl
  | cons text texts inductionHypothesis =>
      rw [linesThen_cons, line, inductionHypothesis]

end Printout

namespace Tour

/-! ## Steps that could fault -/

def nameOf (label : Label) : String :=
  table.names.getD label.toNat ""

def blankTensor : Tensor where
  shape := (3, 32, 32)
  entries := { value := 0, size := 3072 }

def row (label : Label) : List Float32 :=
  (List.replicate 100 0).set label.toNat 1

theorem getElem?_names {label : Label} (below : label < classes) :
    table.names[label.toNat]? = some (nameOf label) := by
  have within : label.toNat < table.names.length := below
  rw [nameOf, List.getD_eq_getElem?_getD, List.getElem?_eq_getElem within]
  rfl

theorem name_eq {label : Label} (below : label < classes) :
    table.name label = .ok (nameOf label) :=
  LabelTable.name_eq_ok_iff.mpr (getElem?_names below)

theorem toTensor_cifar : Image.cifar.toTensor = .ok blankTensor :=
  rfl

theorem oneHot_eq {label : Label} (below : label < classes) :
    oneHot label = .ok (row label) := by
  rw [oneHot, if_pos below]
  rfl

theorem preprocess_eq {label : Label} (below : label < classes) :
    preprocess { image := Image.cifar, label } =
      .ok (blankTensor, row label) := by
  simp only [preprocess, oneHot_eq below, toTensor_cifar]
  rfl

/-! ## Collections as on the tour -/

/-- A collection with the classes of the tour and without functions. -/
structure Plain (dataset : Dataset Unit Unit) : Prop where
  classes : dataset.classes = Tour.classes
  imageTransform : dataset.imageTransform = none
  labelTransform : dataset.labelTransform = none

theorem plain_build : Plain builder.build :=
  ⟨rfl, rfl, rfl⟩

/-- Where there are no functions, a sample is the blank image with the drawn
label, and the collection is as it was. -/
theorem Plain.access_eq {dataset : Dataset Unit Unit} (plain : Plain dataset)
    (drawn : Label) :
    dataset.access drawn =
      ({ outcome := .ok { image := Image.cifar, label := drawn }
         entered := [] }, dataset) := by
  have someClasses : dataset.classes ≠ 0 := by
    rw [plain.classes]
    decide
  have imageHandled :
      Handled dataset.imageTransform Image.cifar [] (.ok Image.cifar)
        dataset.imageTransform := by
    rw [plain.imageTransform]
    exact Handled.absent Image.cifar
  have labelHandled :
      Handled dataset.labelTransform drawn [] (.ok drawn)
        dataset.labelTransform := by
    rw [plain.labelTransform]
    exact Handled.absent drawn
  exact (AccessRun.sample someClasses imageHandled labelHandled).access_eq

/-! ## What is printed -/

theorem showSamples_eq {dataset : Dataset Unit Unit} (plain : Plain dataset)
    (next : Dataset Unit Unit → Printout) {shown : List (Word × Label)}
    (below : ∀ entry, entry ∈ shown → entry.2 < classes) :
    showSamples dataset next shown =
      .linesThen
        (shown.map fun entry =>
          sampleLine entry.1 { image := Image.cifar, label := entry.2 }
            (nameOf entry.2))
        (next dataset) := by
  induction shown with
  | nil =>
      rfl
  | cons first rest inductionHypothesis =>
      obtain ⟨index, drawn⟩ := first
      rw [List.forall_mem_cons] at below
      obtain ⟨drawnBelow, restBelow⟩ := below
      have accessed : Collection.get dataset index drawn = _ :=
        plain.access_eq drawn
      rw [showSamples, accessed]
      simp only [name_eq drawnBelow, inductionHypothesis restBelow,
        List.map_cons, Printout.linesThen_cons]

theorem showTensors_eq {visit : Iteration Unit Unit}
    (plain : Plain visit.dataset) {labels : List Label}
    (enough : labels.length ≤ visit.remaining)
    (below : ∀ label, label ∈ labels → label < classes) :
    showTensors visit labels =
      .linesThen (List.replicate labels.length (tensorLine blankTensor))
        .finished := by
  obtain ⟨dataset, pending⟩ := visit
  -- One index of the visit is used up for each label, so there is always one left.
  induction labels generalizing pending with
  | nil =>
      rfl
  | cons drawn rest inductionHypothesis =>
      rw [List.forall_mem_cons] at below
      obtain ⟨drawnBelow, restBelow⟩ := below
      cases pending with
      | nil =>
          exact absurd enough (Nat.not_succ_le_zero rest.length)
      | cons index pending =>
          have restEnough : rest.length ≤ pending.length :=
            Nat.le_of_succ_le_succ enough
          have accessed : Collection.get dataset index drawn = _ :=
            plain.access_eq drawn
          have restShown :=
            inductionHypothesis restBelow pending plain restEnough
          rw [showTensors, Iteration.next]
          simp only [accessed, preprocess_eq drawnBelow, restShown,
            List.length_cons, List.replicate_succ,
            Printout.linesThen_cons]

theorem sizeLine_build :
    sizeLine builder.build =
      "10000 samples, 100 classes, image size (3, 32, 32)" := by
  decide +kernel

theorem tensorLine_blank :
    tensorLine blankTensor =
      "tensor shape=(3, 32, 32) one-hot shape=(Const,)" := by
  decide +kernel

theorem sampleLine_eq {number : Nat} (shown : number < samplesShown)
    (label : Label) :
    sampleLine (UInt64.ofNat number) { image := Image.cifar, label }
        (nameOf label) =
      "img-" ++ toString number ++ ": shape=(3, 32, 32) label=" ++
        nameOf label := by
  have small : number < UInt64.size :=
    Nat.lt_trans shown (by decide)
  have shapeShown :
      ": shape=" ++ (shapeText Image.cifar.shape ++ " label=") =
        ": shape=(3, 32, 32) label=" := by
    decide +kernel
  rw [sampleLine, UInt64.toNat_ofNat_of_lt' small, ← shapeShown]
  simp only [String.append_assoc]

/-! ## The whole tour -/

/-- The lines about samples, one for each of the first draws. -/
def sampleLines (draws : Draws) : List String :=
  (List.range 10).map fun number =>
    "img-" ++ toString number ++ ": shape=(3, 32, 32) label=" ++
      nameOf (draws number)

theorem showSamples_of_draws {draws : Draws} (below : draws.Below classes)
    (next : Dataset Unit Unit → Printout) :
    showSamples builder.build next
        (((List.range samplesShown).map UInt64.ofNat).zip
          (draws.segment 0 samplesShown)) =
      .linesThen (sampleLines draws) (next builder.build) := by
  simp only [Draws.segment, List.zip_map', Nat.zero_add]
  rw [showSamples_eq plain_build, List.map_map]
  · congr 1
    apply List.map_congr_left
    intro number member
    exact sampleLine_eq (List.mem_range.mp member) (draws number)
  · intro entry member
    obtain ⟨number, _, rfl⟩ := List.mem_map.mp member
    exact below number

theorem showTensors_of_order {draws : Draws} (below : draws.Below classes)
    {order : List Word}
    (visited : order.Perm (Collection.indices builder.build)) :
    showTensors (Iteration.start builder.build order)
        (draws.segment samplesShown tensorsShown) =
      .linesThen
        (List.replicate 4 "tensor shape=(3, 32, 32) one-hot shape=(Const,)")
        .finished := by
  have visitLength :
      (Iteration.start builder.build order).remaining = 10000 := by
    rw [Iteration.remaining, Iteration.start, visited.length_eq,
      Collection.length_indices]
    rfl
  rw [showTensors_eq plain_build, Draws.length_segment, tensorLine_blank]
  · rfl
  · rw [visitLength, Draws.length_segment]
    decide
  · intro label
    exact Draws.lt_of_mem_segment below

end Tour

end BlankImages
