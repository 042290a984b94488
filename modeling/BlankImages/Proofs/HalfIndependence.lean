import BlankImages.Proofs.SampleHalves
import BlankImages.Proofs.VisitReading

/-!
# The two halves of a sample do not influence each other

Two collections that share one of their functions are compared.  The label halves
depend on the image halves only in whether these return; the image halves do not
depend on the labels at all, neither on the draws nor on the function.
-/

namespace BlankImages

variable {σ τ ρ : Type}

namespace Dataset

/-- As long as every image half returns, the label halves do not tell what
function there is on images. -/
theorem labelHalves_congr {left : Dataset σ τ} {right : Dataset ρ τ}
    {draws : List Label}
    (leftClasses : left.classes ≠ 0) (rightClasses : right.classes ≠ 0)
    (sameFunction : left.labelTransform = right.labelTransform)
    (leftMade : ∀ half, half ∈ left.imageHalves draws → half.returns = true)
    (rightMade : ∀ half, half ∈ right.imageHalves draws →
      half.returns = true) :
    left.labelHalves draws = right.labelHalves draws := by
  have leftComposed := composed_accessAll leftClasses draws
  have rightComposed := composed_accessAll rightClasses draws
  have leftConsecutive := (consecutive_halves leftClasses draws).2
  have rightConsecutive := (consecutive_halves rightClasses draws).2
  rw [← sameFunction] at rightConsecutive
  apply leftConsecutive.eq_of_given rightConsecutive
  rw [leftComposed.given_labels_of_made leftMade,
    rightComposed.given_labels_of_made rightMade]

/-- The image halves tell neither the draws nor the function on labels. -/
theorem imageHalves_congr {left : Dataset σ τ} {right : Dataset σ ρ}
    {leftDraws rightDraws : List Label}
    (leftClasses : left.classes ≠ 0) (rightClasses : right.classes ≠ 0)
    (sameFunction : left.imageTransform = right.imageTransform)
    (sameLength : leftDraws.length = rightDraws.length) :
    left.imageHalves leftDraws = right.imageHalves rightDraws := by
  have leftConsecutive := (consecutive_halves leftClasses leftDraws).1
  have rightConsecutive := (consecutive_halves rightClasses rightDraws).1
  rw [← sameFunction] at rightConsecutive
  apply leftConsecutive.eq_of_given rightConsecutive
  rw [(composed_accessAll leftClasses leftDraws).given_images,
    (composed_accessAll rightClasses rightDraws).given_images, sameLength]

end Dataset

/-- Another function on images leaves everything about labels as it was, as long
as no image half faults; another function on labels and other draws leave
everything about images as it was.  A faulting image half takes the place of a
label half, and every access has an image half. -/
theorem halves_independent (σ τ ρ : Type) :
    (∀ (left : Dataset σ τ) (right : Dataset ρ τ) (draws : List Label),
      left.classes ≠ 0 → right.classes ≠ 0 →
      left.labelTransform = right.labelTransform →
      (∀ half, half ∈ left.imageHalves draws → half.returns = true) →
      (∀ half, half ∈ right.imageHalves draws → half.returns = true) →
      left.labelHalves draws = right.labelHalves draws ∧
      ((left.accessAll draws).1.map fun access =>
          access.outcome.map Sample.label) =
        ((right.accessAll draws).1.map fun access =>
          access.outcome.map Sample.label) ∧
      (left.accessAll draws).1.flatMap Access.labels =
        (right.accessAll draws).1.flatMap Access.labels ∧
      (left.accessAll draws).2.labelTransform =
        (right.accessAll draws).2.labelTransform) ∧
    (∀ (left : Dataset σ τ) (right : Dataset σ ρ)
      (leftDraws rightDraws : List Label),
      left.classes ≠ 0 → right.classes ≠ 0 →
      left.imageTransform = right.imageTransform →
      leftDraws.length = rightDraws.length →
      left.imageHalves leftDraws = right.imageHalves rightDraws ∧
      (left.accessAll leftDraws).1.flatMap Access.images =
        (right.accessAll rightDraws).1.flatMap Access.images ∧
      (left.accessAll leftDraws).2.imageTransform =
        (right.accessAll rightDraws).2.imageTransform) ∧
    (∀ (dataset : Dataset σ τ) (draws : List Label), dataset.classes ≠ 0 →
      Composed draws (dataset.imageHalves draws) (dataset.labelHalves draws)
        (dataset.accessAll draws).1 ∧
      (dataset.imageHalves draws).length = draws.length ∧
      (dataset.labelHalves draws).map Half.given =
        ((draws.zip (dataset.imageHalves draws)).filter fun entry =>
          entry.2.returns).map Prod.fst) := by
  refine ⟨?_, ?_, ?_⟩
  · intro left right draws leftClasses rightClasses sameFunction leftMade
      rightMade
    have leftComposed := Dataset.composed_accessAll leftClasses draws
    have rightComposed := Dataset.composed_accessAll rightClasses draws
    have sameHalves :=
      Dataset.labelHalves_congr leftClasses rightClasses sameFunction
        leftMade rightMade
    have sameLabels :
        (left.accessAll draws).1.flatMap Access.labels =
          (right.accessAll draws).1.flatMap Access.labels := by
      rw [leftComposed.calls_labels, rightComposed.calls_labels, sameHalves]
    refine ⟨sameHalves, ?_, sameLabels, ?_⟩
    · rw [leftComposed.outcome_labels leftMade,
        rightComposed.outcome_labels rightMade, sameHalves]
    · rw [Dataset.labelTransform_accessAll, Dataset.labelTransform_accessAll,
        sameFunction, sameLabels]
  · intro left right leftDraws rightDraws leftClasses rightClasses
      sameFunction sameLength
    have leftComposed := Dataset.composed_accessAll leftClasses leftDraws
    have rightComposed := Dataset.composed_accessAll rightClasses rightDraws
    have sameHalves :=
      Dataset.imageHalves_congr leftClasses rightClasses sameFunction
        sameLength
    have sameImages :
        (left.accessAll leftDraws).1.flatMap Access.images =
          (right.accessAll rightDraws).1.flatMap Access.images := by
      rw [leftComposed.calls_images, rightComposed.calls_images, sameHalves]
    refine ⟨sameHalves, sameImages, ?_⟩
    rw [Dataset.imageTransform_accessAll, Dataset.imageTransform_accessAll,
      sameFunction, sameImages]
  · intro dataset draws someClasses
    have composed := Dataset.composed_accessAll someClasses draws
    exact ⟨composed, composed.length_images, composed.given_labels⟩

/-- A function on images that has not tired yet against none at all, and a
function on labels that has tired against one that faults always; with the image
function at its end, two of three accesses are left to the function on labels. -/
theorem halves_independent_of_tiring_functions :
    let left : Dataset Nat Nat :=
      { classes := 10
        root := { bytes := [] }
        split := .train
        download := false
        imageTransform := some (Transform.tiring 2)
        labelTransform := some (Transform.tiring 1) }
    let blank : Dataset Unit Nat :=
      { left with imageTransform := none }
    let refusing : Dataset Nat Unit :=
      { left with
        labelTransform :=
          some (Transform.pure fun _ => .error (.raised "refused")) }
    (left.classes ≠ 0 ∧ blank.classes ≠ 0 ∧ refusing.classes ≠ 0) ∧
    (left.labelTransform = blank.labelTransform ∧
      (∀ half, half ∈ left.imageHalves [4, 9] → half.returns = true) ∧
      (∀ half, half ∈ blank.imageHalves [4, 9] → half.returns = true) ∧
      ((left.accessAll [4, 9]).1.map fun access =>
          access.outcome.map Sample.label) =
        ((blank.accessAll [4, 9]).1.map fun access =>
          access.outcome.map Sample.label)) ∧
    (left.imageTransform = refusing.imageTransform ∧
      ([4, 9, 1] : List Label).length = ([0, 0, 7] : List Label).length ∧
      (left.accessAll [4, 9, 1]).1.flatMap Access.images =
        (refusing.accessAll [0, 0, 7]).1.flatMap Access.images) ∧
    (left.imageHalves [4, 9, 1]).map Half.returns = [true, true, false] ∧
    (left.labelHalves [4, 9, 1]).map Half.given =
      (([4, 9, 1].zip (left.imageHalves [4, 9, 1])).filter fun entry =>
        entry.2.returns).map Prod.fst := by
  intro left blank refusing
  have someClasses :
      left.classes ≠ 0 ∧ blank.classes ≠ 0 ∧ refusing.classes ≠ 0 := by
    decide
  have leftMade :
      ∀ half, half ∈ left.imageHalves [4, 9] → half.returns = true := by
    decide +kernel
  have blankMade :
      ∀ half, half ∈ blank.imageHalves [4, 9] → half.returns = true := by
    decide +kernel
  obtain ⟨imagesReplaced, labelsReplaced, composed⟩ :=
    halves_independent Nat Nat Unit
  have labelsKept :=
    imagesReplaced left blank [4, 9] someClasses.1 someClasses.2.1 rfl
      leftMade blankMade
  have imagesKept :=
    labelsReplaced left refusing [4, 9, 1] [0, 0, 7] someClasses.1
      someClasses.2.2 rfl rfl
  exact
    ⟨someClasses, ⟨rfl, leftMade, blankMade, labelsKept.2.1⟩,
      ⟨rfl, rfl, imagesKept.2.1⟩, by decide +kernel,
      (composed left [4, 9, 1] someClasses.1).2.2⟩

end BlankImages
