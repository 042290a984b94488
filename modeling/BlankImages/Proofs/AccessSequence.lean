import BlankImages.Proofs.AccessOutcome

/-!
# Accesses one after the other

A sequence of accesses hands its state from one access to the next.  Splitting
the drawn labels splits the sequence, and each of the two functions ends in the
state to which the calls recorded in the sequence lead.
-/

namespace BlankImages

/-! ## Recorded calls -/

namespace Entry

def image? : Entry → Option Image
  | .image given => some given
  | .label _ => none

def label? : Entry → Option Label
  | .image _ => none
  | .label given => some given

theorem filterMap_image?_images (images : List Image) :
    (images.map Entry.image).filterMap image? = images := by
  simp [List.filterMap_map, Function.comp_def, image?]

theorem filterMap_image?_labels (labels : List Label) :
    (labels.map Entry.label).filterMap image? = [] := by
  simp [List.filterMap_map, Function.comp_def, image?]

theorem filterMap_label?_images (images : List Image) :
    (images.map Entry.image).filterMap label? = [] := by
  simp [List.filterMap_map, Function.comp_def, label?]

theorem filterMap_label?_labels (labels : List Label) :
    (labels.map Entry.label).filterMap label? = labels := by
  simp [List.filterMap_map, Function.comp_def, label?]

end Entry

namespace Access

def images (access : Access) : List Image :=
  access.entered.filterMap Entry.image?

def labels (access : Access) : List Label :=
  access.entered.filterMap Entry.label?

end Access

variable {σ τ : Type}

namespace AccessRun

variable {dataset after : Dataset σ τ} {drawn : Label} {access : Access}

theorem imageTransform_eq (run : AccessRun dataset drawn access after) :
    after.imageTransform =
      dataset.imageTransform.map fun function =>
        (function.callAll access.images).2 := by
  cases run with
  | emptyRange =>
      simp [Access.images]
  | imageFault someClasses imageHandled =>
      simp only [Access.images, Entry.filterMap_image?_images]
      exact imageHandled.after_eq
  | labelFault someClasses imageHandled labelHandled =>
      simp only [Access.images, List.filterMap_append,
        Entry.filterMap_image?_images, Entry.filterMap_image?_labels,
        List.append_nil]
      exact imageHandled.after_eq
  | sample someClasses imageHandled labelHandled =>
      simp only [Access.images, List.filterMap_append,
        Entry.filterMap_image?_images, Entry.filterMap_image?_labels,
        List.append_nil]
      exact imageHandled.after_eq

theorem labelTransform_eq (run : AccessRun dataset drawn access after) :
    after.labelTransform =
      dataset.labelTransform.map fun function =>
        (function.callAll access.labels).2 := by
  cases run with
  | emptyRange =>
      simp [Access.labels]
  | imageFault someClasses imageHandled =>
      simp only [Access.labels, Entry.filterMap_label?_images,
        Transform.callAll_nil, Option.map_id_fun']
      rfl
  | labelFault someClasses imageHandled labelHandled =>
      simp only [Access.labels, List.filterMap_append,
        Entry.filterMap_label?_images, Entry.filterMap_label?_labels,
        List.nil_append]
      exact labelHandled.after_eq
  | sample someClasses imageHandled labelHandled =>
      simp only [Access.labels, List.filterMap_append,
        Entry.filterMap_label?_images, Entry.filterMap_label?_labels,
        List.nil_append]
      exact labelHandled.after_eq

end AccessRun

/-! ## Sequences -/

theorem Transform.map_callAll_append {α : Type}
    (slot : Option (Transform σ α)) (first second : List α) :
    (slot.map fun transform => (transform.callAll (first ++ second)).2) =
      (slot.map fun transform => (transform.callAll first).2).map
        fun transform => (transform.callAll second).2 := by
  rw [Option.map_map]
  congr 1
  funext transform
  rw [Function.comp_apply, Transform.callAll_append]

namespace Dataset

@[simp]
theorem length_accessAll (dataset : Dataset σ τ) (draws : List Label) :
    (dataset.accessAll draws).1.length = draws.length := by
  induction draws generalizing dataset with
  | nil =>
      rfl
  | cons drawn rest inductionHypothesis =>
      rw [accessAll_cons, List.length_cons, List.length_cons,
        inductionHypothesis]

theorem accessAll_append (dataset : Dataset σ τ) (first second : List Label) :
    dataset.accessAll (first ++ second) =
      ((dataset.accessAll first).1 ++
          ((dataset.accessAll first).2.accessAll second).1,
        ((dataset.accessAll first).2.accessAll second).2) := by
  induction first generalizing dataset with
  | nil =>
      rfl
  | cons drawn rest inductionHypothesis =>
      rw [List.cons_append, accessAll_cons, accessAll_cons,
        inductionHypothesis]
      rfl

/-- Fewer draws give an initial part of the sequence. -/
theorem accessAll_take (dataset : Dataset σ τ) (draws : List Label)
    (count : Nat) :
    (dataset.accessAll (draws.take count)).1 =
      (dataset.accessAll draws).1.take count := by
  -- The sequence splits at `count`, unless it has fewer accesses than that.
  have whole := accessAll_append dataset (draws.take count) (draws.drop count)
  rw [List.take_append_drop] at whole
  rw [whole]
  by_cases within : count ≤ draws.length
  · have reached :
        (dataset.accessAll (draws.take count)).1.length = count := by
      rw [length_accessAll, List.length_take]
      omega
    rw [List.take_left' reached]
  · have past : draws.length ≤ count := by
      omega
    rw [List.drop_of_length_le past, List.take_of_length_le past,
      accessAll_nil, List.append_nil, List.take_of_length_le]
    rw [length_accessAll]
    exact past

/-- Each access is made on the collection as those before it have left it. -/
theorem getElem?_accessAll (dataset : Dataset σ τ) (draws : List Label)
    (number : Nat) :
    (dataset.accessAll draws).1[number]? =
      draws[number]?.map fun drawn =>
        ((dataset.accessAll (draws.take number)).2.access drawn).1 := by
  induction draws generalizing dataset number with
  | nil =>
      rfl
  | cons drawn rest inductionHypothesis =>
      rw [accessAll_cons]
      cases number with
      | zero =>
          rfl
      | succ number =>
          rw [List.getElem?_cons_succ, List.getElem?_cons_succ,
            List.take_succ_cons, accessAll_cons, inductionHypothesis]

/-- Every call on images in a sequence is a call of the function that was in the
slot at its beginning. -/
theorem imageTransform_accessAll (dataset : Dataset σ τ) (draws : List Label) :
    (dataset.accessAll draws).2.imageTransform =
      dataset.imageTransform.map fun function =>
        (function.callAll
          ((dataset.accessAll draws).1.flatMap Access.images)).2 := by
  induction draws generalizing dataset with
  | nil =>
      simp
  | cons drawn rest inductionHypothesis =>
      rw [accessAll_cons, List.flatMap_cons, inductionHypothesis,
        (dataset.access_run drawn).imageTransform_eq,
        Transform.map_callAll_append]

theorem labelTransform_accessAll (dataset : Dataset σ τ) (draws : List Label) :
    (dataset.accessAll draws).2.labelTransform =
      dataset.labelTransform.map fun function =>
        (function.callAll
          ((dataset.accessAll draws).1.flatMap Access.labels)).2 := by
  induction draws generalizing dataset with
  | nil =>
      simp
  | cons drawn rest inductionHypothesis =>
      rw [accessAll_cons, List.flatMap_cons, inductionHypothesis,
        (dataset.access_run drawn).labelTransform_eq,
        Transform.map_callAll_append]

end Dataset

end BlankImages
