import BlankImages.Dataset.Access

/-!
# What one access can come to

An access is described by rules, one for each way in which it can end.  The
rules speak of the functions that a caller supplied only through single calls:
which values a function was given, what it answered, and the state in which the
call left it.  The program follows the rules and nothing else does, so the first
fault in the order draw, image, label is the one that is reported.
-/

namespace BlankImages

/-! ## Slots -/

/-- How a slot handles a value: the values that its function is called with, the
answer, and the slot afterwards. -/
inductive Handled {σ α : Type} :
    Option (Transform σ α) → α → List α → Except Fault α →
      Option (Transform σ α) → Prop
  | absent (given : α) :
      Handled none given [] (.ok given) none
  | called {transform : Transform σ α} {given : α}
      {answer : Except Fault α} {state : σ}
      (responded :
        transform.respond transform.state given = (answer, state)) :
      Handled (some transform) given [given] answer
        (some { transform with state })

namespace Handled

variable {σ α : Type} {slot after : Option (Transform σ α)}
  {given : α} {calls : List α} {answer : Except Fault α}

theorem of_apply (slot : Option (Transform σ α)) (given : α) :
    Handled slot given (if slot.isSome then [given] else [])
      (Transform.apply slot given).1 (Transform.apply slot given).2 := by
  cases slot with
  | none =>
      exact Handled.absent given
  | some transform =>
      exact Handled.called rfl

theorem apply_eq (handled : Handled slot given calls answer after) :
    Transform.apply slot given = (answer, after) := by
  cases handled with
  | absent =>
      rfl
  | called responded =>
      simp only [Transform.apply_some, Transform.call, responded]

theorem calls_eq (handled : Handled slot given calls answer after) :
    calls = if slot.isSome then [given] else [] := by
  cases handled with
  | absent =>
      rfl
  | called =>
      rfl

/-- A slot ends in the state that its calls lead to. -/
theorem after_eq (handled : Handled slot given calls answer after) :
    after = slot.map fun transform => (transform.callAll calls).2 := by
  cases handled with
  | absent =>
      rfl
  | called responded =>
      simp only [Option.map_some, Transform.callAll_cons,
        Transform.callAll_nil, Transform.call, responded]

end Handled

/-- The function in a slot faults on a value, in the state that it has now. -/
def Transform.FaultsOn {σ α : Type} (slot : Option (Transform σ α))
    (given : α) (fault : Fault) : Prop :=
  ∃ transform, slot = some transform ∧
    (transform.call given).1 = .error fault

theorem Transform.faultsOn_iff_apply {σ α : Type}
    {slot : Option (Transform σ α)} {given : α} {fault : Fault} :
    FaultsOn slot given fault ↔ (apply slot given).1 = .error fault := by
  cases slot with
  | none =>
      simp [FaultsOn]
  | some transform =>
      simp [FaultsOn]

/-! ## Accesses -/

variable {σ τ : Type}

/-- The rules for an access that draws a label: what it comes to, and the
collection afterwards.  The image starts with three channels of 32 by 32 points. -/
inductive AccessRun (dataset : Dataset σ τ) (drawn : Label) :
    Access → Dataset σ τ → Prop
  | emptyRange (noClasses : dataset.classes = 0) :
      AccessRun dataset drawn
        { outcome := .error .emptyRange, entered := [] } dataset
  | imageFault {images : List Image} {fault : Fault}
      {imageAfter : Option (Transform σ Image)}
      (someClasses : dataset.classes ≠ 0)
      (imageHandled :
        Handled dataset.imageTransform ⟨3, 32, 32⟩ images
          (.error fault) imageAfter) :
      AccessRun dataset drawn
        { outcome := .error fault, entered := images.map .image }
        { dataset with imageTransform := imageAfter }
  | labelFault {images : List Image} {labels : List Label}
      {image : Image} {fault : Fault}
      {imageAfter : Option (Transform σ Image)}
      {labelAfter : Option (Transform τ Label)}
      (someClasses : dataset.classes ≠ 0)
      (imageHandled :
        Handled dataset.imageTransform ⟨3, 32, 32⟩ images
          (.ok image) imageAfter)
      (labelHandled :
        Handled dataset.labelTransform drawn labels
          (.error fault) labelAfter) :
      AccessRun dataset drawn
        { outcome := .error fault
          entered := images.map .image ++ labels.map .label }
        { dataset with
          imageTransform := imageAfter, labelTransform := labelAfter }
  | sample {images : List Image} {labels : List Label}
      {image : Image} {label : Label}
      {imageAfter : Option (Transform σ Image)}
      {labelAfter : Option (Transform τ Label)}
      (someClasses : dataset.classes ≠ 0)
      (imageHandled :
        Handled dataset.imageTransform ⟨3, 32, 32⟩ images
          (.ok image) imageAfter)
      (labelHandled :
        Handled dataset.labelTransform drawn labels
          (.ok label) labelAfter) :
      AccessRun dataset drawn
        { outcome := .ok { image, label }
          entered := images.map .image ++ labels.map .label }
        { dataset with
          imageTransform := imageAfter, labelTransform := labelAfter }

namespace Dataset

theorem imageEntries_eq (dataset : Dataset σ τ) :
    dataset.imageEntries =
      (if dataset.imageTransform.isSome then [⟨3, 32, 32⟩] else []).map
        Entry.image := by
  unfold imageEntries
  split
  · rfl
  · rfl

theorem labelEntries_eq (dataset : Dataset σ τ) (drawn : Label) :
    dataset.labelEntries drawn =
      (if dataset.labelTransform.isSome then [drawn] else []).map
        Entry.label := by
  unfold labelEntries
  split
  · rfl
  · rfl

/-- The program follows the rules. -/
theorem access_run (dataset : Dataset σ τ) (drawn : Label) :
    AccessRun dataset drawn
      (dataset.access drawn).1 (dataset.access drawn).2 := by
  by_cases noClasses : dataset.classes = 0
  · rw [access, if_pos noClasses]
    exact AccessRun.emptyRange noClasses
  · -- The image half leaves the function on labels alone, so what the two slots
    -- do can be stated before either is asked.
    have imageHandled :=
      Handled.of_apply dataset.imageTransform Image.cifar
    have labelHandled := Handled.of_apply dataset.labelTransform drawn
    rw [access, if_neg noClasses, imageEntries_eq]
    unfold makeImage makeLabel
    generalize Transform.apply dataset.imageTransform Image.cifar =
      imageApplied at imageHandled ⊢
    obtain ⟨imageAnswer, imageAfter⟩ := imageApplied
    cases imageAnswer with
    | error fault =>
        exact AccessRun.imageFault noClasses imageHandled
    | ok image =>
        simp only [labelEntries_eq]
        generalize Transform.apply dataset.labelTransform drawn =
          labelApplied at labelHandled ⊢
        obtain ⟨labelAnswer, labelAfter⟩ := labelApplied
        cases labelAnswer with
        | error fault =>
            exact AccessRun.labelFault noClasses imageHandled labelHandled
        | ok label =>
            exact AccessRun.sample noClasses imageHandled labelHandled

end Dataset

namespace AccessRun

variable {dataset after : Dataset σ τ} {drawn : Label} {access : Access}

/-- The rules leave the program no choice. -/
theorem access_eq (run : AccessRun dataset drawn access after) :
    dataset.access drawn = (access, after) := by
  cases run with
  | emptyRange noClasses =>
      rw [Dataset.access, if_pos noClasses]
  | imageFault someClasses imageHandled =>
      have imagesShape := imageHandled.calls_eq
      subst imagesShape
      rw [Dataset.access, if_neg someClasses, Dataset.imageEntries_eq]
      simp only [Dataset.makeImage, Image.cifar, imageHandled.apply_eq]
  | labelFault someClasses imageHandled labelHandled =>
      have imagesShape := imageHandled.calls_eq
      have labelsShape := labelHandled.calls_eq
      subst imagesShape labelsShape
      rw [Dataset.access, if_neg someClasses, Dataset.imageEntries_eq]
      simp only [Dataset.makeImage, Image.cifar, Dataset.makeLabel,
        Dataset.labelEntries_eq, imageHandled.apply_eq,
        labelHandled.apply_eq]
  | sample someClasses imageHandled labelHandled =>
      have imagesShape := imageHandled.calls_eq
      have labelsShape := labelHandled.calls_eq
      subst imagesShape labelsShape
      rw [Dataset.access, if_neg someClasses, Dataset.imageEntries_eq]
      simp only [Dataset.makeImage, Image.cifar, Dataset.makeLabel,
        Dataset.labelEntries_eq, imageHandled.apply_eq,
        labelHandled.apply_eq]

/-- The fault of an access is the first one in the order draw, image, label. -/
theorem outcome_eq_error_iff (run : AccessRun dataset drawn access after)
    (fault : Fault) :
    access.outcome = .error fault ↔
      (dataset.classes = 0 ∧ fault = .emptyRange) ∨
      (dataset.classes ≠ 0 ∧
        Transform.FaultsOn dataset.imageTransform ⟨3, 32, 32⟩ fault) ∨
      (dataset.classes ≠ 0 ∧
        (∀ earlier, ¬ Transform.FaultsOn dataset.imageTransform
          ⟨3, 32, 32⟩ earlier) ∧
        Transform.FaultsOn dataset.labelTransform drawn fault) := by
  simp only [Transform.faultsOn_iff_apply]
  cases run with
  | emptyRange noClasses =>
      simp [noClasses, eq_comm]
  | imageFault someClasses imageHandled =>
      simp [someClasses, imageHandled.apply_eq]
  | labelFault someClasses imageHandled labelHandled =>
      simp [someClasses, imageHandled.apply_eq, labelHandled.apply_eq]
  | sample someClasses imageHandled labelHandled =>
      simp [someClasses, imageHandled.apply_eq, labelHandled.apply_eq]

theorem faults_iff (run : AccessRun dataset drawn access after) :
    (∃ fault, access.outcome = .error fault) ↔
      dataset.classes = 0 ∨
      (∃ fault,
        Transform.FaultsOn dataset.imageTransform ⟨3, 32, 32⟩ fault) ∨
      (∃ fault,
        Transform.FaultsOn dataset.labelTransform drawn fault) := by
  simp only [Transform.faultsOn_iff_apply]
  cases run with
  | emptyRange noClasses =>
      simp [noClasses]
  | imageFault someClasses imageHandled =>
      simp [imageHandled.apply_eq]
  | labelFault someClasses imageHandled labelHandled =>
      simp [labelHandled.apply_eq]
  | sample someClasses imageHandled labelHandled =>
      simp [someClasses, imageHandled.apply_eq, labelHandled.apply_eq]

end AccessRun

/-- An access at any index ends by exactly one rule.  It reports the first fault
in the order draw, image, label, and it ends in a fault only when one of the
three does. -/
theorem itemAt_run_and_first_fault
    (dataset : Dataset σ τ) (index : Word) (drawn : Label) :
    (∀ access after,
      dataset.itemAt index drawn = (access, after) ↔
        AccessRun dataset drawn access after) ∧
    (∀ fault,
      (dataset.itemAt index drawn).1.outcome = .error fault ↔
        (dataset.classes = 0 ∧ fault = .emptyRange) ∨
        (dataset.classes ≠ 0 ∧
          Transform.FaultsOn dataset.imageTransform ⟨3, 32, 32⟩ fault) ∨
        (dataset.classes ≠ 0 ∧
          (∀ earlier, ¬ Transform.FaultsOn dataset.imageTransform
            ⟨3, 32, 32⟩ earlier) ∧
          Transform.FaultsOn dataset.labelTransform drawn fault)) ∧
    ((∃ fault, (dataset.itemAt index drawn).1.outcome = .error fault) ↔
      dataset.classes = 0 ∨
      (∃ fault,
        Transform.FaultsOn dataset.imageTransform ⟨3, 32, 32⟩ fault) ∨
      (∃ fault,
        Transform.FaultsOn dataset.labelTransform drawn fault)) ∧
    (dataset.classes = 0 →
      (dataset.itemAt index drawn).1.fault?.map Fault.message =
        some "cannot sample empty range") := by
  have run : AccessRun dataset drawn
      (dataset.itemAt index drawn).1 (dataset.itemAt index drawn).2 :=
    dataset.access_run drawn
  refine ⟨?_, run.outcome_eq_error_iff, run.faults_iff, ?_⟩
  · intro access after
    constructor
    · intro reached
      rw [reached] at run
      exact run
    · intro other
      exact other.access_eq
  · intro noClasses
    have emptyRange :
        (dataset.itemAt index drawn).1.outcome = .error .emptyRange :=
      (run.outcome_eq_error_iff .emptyRange).mpr
        (Or.inl ⟨noClasses, rfl⟩)
    unfold Access.fault?
    rw [emptyRange]
    rfl

/-- Without classes the functions are not asked, although both would fault. -/
theorem itemAt_without_classes :
    let dataset : Dataset Nat Nat :=
      { classes := 0
        root := { bytes := [] }
        split := .test
        download := false
        imageTransform :=
          some
            { state := 3
              respond := fun calls _ =>
                (.error (.raised "image"), calls + 1) }
        labelTransform :=
          some
            { state := 5
              respond := fun calls _ =>
                (.error (.raised "label"), calls + 1) } }
    dataset.classes = 0 ∧
      (dataset.itemAt 7 2).1.fault?.map Fault.message =
        some "cannot sample empty range" ∧
      (dataset.itemAt 7 2).2.imageTransform.map Transform.state = some 3 ∧
      (dataset.itemAt 7 2).2.labelTransform.map Transform.state = some 5 := by
  intro dataset
  have noClasses : dataset.classes = 0 := rfl
  exact ⟨noClasses,
    (itemAt_run_and_first_fault dataset 7 2).2.2.2 noClasses, rfl, rfl⟩

end BlankImages
