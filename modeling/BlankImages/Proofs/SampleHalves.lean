import BlankImages.Proofs.AccessSequence

/-!
# The halves of samples

An access makes an image half and, unless that one faults, a label half.  A half
is recorded as it is asked for: with the slot as it is at that moment and with
the value that is handed to it.  Such a record tells what was answered and what
the function in the slot had been through, which the outcome of an access does
not always show.
-/

namespace BlankImages

variable {σ τ : Type}

/-! ## Slots in the course of time -/

namespace Transform

variable {α : Type}

def afterCalls (slot : Option (Transform σ α)) (values : List α) :
    Option (Transform σ α) :=
  slot.map fun transform => (transform.callAll values).2

@[simp]
theorem afterCalls_nil (slot : Option (Transform σ α)) :
    afterCalls slot [] = slot := by
  cases slot with
  | none =>
      rfl
  | some transform =>
      rfl

theorem afterCalls_append (slot : Option (Transform σ α))
    (first second : List α) :
    afterCalls slot (first ++ second) =
      afterCalls (afterCalls slot first) second :=
  map_callAll_append slot first second

@[simp]
theorem isSome_afterCalls (slot : Option (Transform σ α)) (values : List α) :
    (afterCalls slot values).isSome = slot.isSome := by
  rw [afterCalls, Option.isSome_map]

/-- The same slot at a later time: its function may have been called meanwhile. -/
def Later (earlier later : Option (Transform σ α)) : Prop :=
  ∃ values, later = afterCalls earlier values

theorem Later.refl (slot : Option (Transform σ α)) : Later slot slot :=
  ⟨[], (afterCalls_nil slot).symm⟩

theorem Later.trans {first second third : Option (Transform σ α)}
    (firstLater : Later first second) (secondLater : Later second third) :
    Later first third := by
  obtain ⟨firstValues, rfl⟩ := firstLater
  obtain ⟨secondValues, rfl⟩ := secondLater
  exact
    ⟨firstValues ++ secondValues,
      (afterCalls_append first firstValues secondValues).symm⟩

/-- Calls change the state of a function and not what it does in a state. -/
theorem respond_afterCalls (slot : Option (Transform σ α)) (values : List α) :
    (afterCalls slot values).map respond = slot.map respond := by
  induction values generalizing slot with
  | nil =>
      rw [afterCalls_nil]
  | cons given rest inductionHypothesis =>
      have split := afterCalls_append slot [given] rest
      rw [List.singleton_append] at split
      rw [split, inductionHypothesis]
      cases slot with
      | none =>
          rfl
      | some transform =>
          rfl

/-- What a slot answers does not depend on the calls that came before. -/
def Stateless (slot : Option (Transform σ α)) : Prop :=
  ∀ values given, (apply (afterCalls slot values) given).1 = (apply slot given).1

theorem stateless_pure (function : α → Except Fault α) :
    Stateless (some (pure function)) := by
  intro values given
  have unchanged : ((pure function).callAll values).2 = pure function := by
    induction values with
    | nil =>
        rfl
    | cons first rest inductionHypothesis =>
        exact inductionHypothesis
  rw [afterCalls, Option.map_some, unchanged]

/-- The number that `count` reads from the state is one higher after each call. -/
def Counts (transform : Transform σ α) (count : σ → Nat) : Prop :=
  ∀ values,
    count (transform.callAll values).2.state =
      count transform.state + values.length

theorem Counts.call {transform : Transform σ α} {count : σ → Nat}
    (counts : transform.Counts count) (given : α) :
    count (transform.call given).2.state = count transform.state + 1 ∧
      (transform.call given).2.Counts count := by
  have once : count (transform.call given).2.state = count transform.state + 1 :=
    counts [given]
  refine ⟨once, ?_⟩
  intro values
  have onward := counts (given :: values)
  rw [callAll_cons, List.length_cons] at onward
  dsimp only at onward
  omega

theorem counts_of_respond {transform : Transform σ α} {count : σ → Nat}
    (each : ∀ state given,
      count (transform.respond state given).2 = count state + 1) :
    transform.Counts count := by
  intro values
  induction values generalizing transform with
  | nil =>
      rfl
  | cons given rest inductionHypothesis =>
      have onward : count ((transform.call given).2.callAll rest).2.state =
          count (transform.call given).2.state + rest.length :=
        inductionHypothesis each
      have once : count (transform.call given).2.state =
          count transform.state + 1 :=
        each transform.state given
      rw [callAll_cons, List.length_cons]
      dsimp only
      omega

end Transform

/-! ## Halves -/

/-- A half that is asked for: the slot as it is, and the value it is handed. -/
structure Half (σ α : Type) where
  slot : Option (Transform σ α)
  given : α

namespace Half

variable {α : Type}

def answer (half : Half σ α) : Except Fault α :=
  (Transform.apply half.slot half.given).1

def after (half : Half σ α) : Option (Transform σ α) :=
  (Transform.apply half.slot half.given).2

/-- The values that the function in the slot is called with: one, or none in an
empty slot. -/
def calls (half : Half σ α) : List α :=
  if half.slot.isSome then [half.given] else []

def returns (half : Half σ α) : Bool :=
  half.answer.isOk

theorem returns_of_ok {half : Half σ α} {made : α}
    (returned : half.answer = .ok made) : half.returns = true := by
  rw [returns, returned]
  rfl

theorem returns_of_error {half : Half σ α} {fault : Fault}
    (faulted : half.answer = .error fault) : half.returns = false := by
  rw [returns, faulted]
  rfl

/-- What the counter of the function shows to the call. -/
def shown? (count : σ → Nat) (half : Half σ α) : Option Nat :=
  half.after.map fun transform => count transform.state

theorem handled (half : Half σ α) :
    Handled half.slot half.given half.calls half.answer half.after :=
  Handled.of_apply half.slot half.given

theorem after_eq (half : Half σ α) :
    half.after = Transform.afterCalls half.slot half.calls :=
  half.handled.after_eq

theorem later_after (half : Half σ α) : Transform.Later half.slot half.after :=
  ⟨half.calls, half.after_eq⟩

/-- A slot without memory is asked the same at any time. -/
theorem eq_of_stateless {slot : Option (Transform σ α)} {half : Half σ α}
    (stateless : Transform.Stateless slot)
    (later : Transform.Later slot half.slot) :
    half.answer = (mk slot half.given).answer ∧
      half.calls = (mk slot half.given).calls := by
  obtain ⟨values, reached⟩ := later
  unfold answer calls
  rw [reached]
  exact ⟨stateless values half.given, by rw [Transform.isSome_afterCalls]⟩

/-- Each half finds the slot as the one before has left it, and the first finds
`slot`. -/
def Consecutive (slot : Option (Transform σ α)) : List (Half σ α) → Prop
  | [] => True
  | half :: rest => half.slot = slot ∧ Consecutive half.after rest

theorem Consecutive.later {slot : Option (Transform σ α)}
    {halves : List (Half σ α)} (consecutive : Consecutive slot halves) :
    ∀ half, half ∈ halves → Transform.Later slot half.slot := by
  induction halves generalizing slot with
  | nil =>
      intro half member
      cases member
  | cons first rest inductionHypothesis =>
      obtain ⟨rfl, restConsecutive⟩ := consecutive
      intro half member
      rcases List.mem_cons.mp member with rfl | restMember
      · exact Transform.Later.refl half.slot
      · exact
          first.later_after.trans
            (inductionHypothesis restConsecutive half restMember)

/-- What a slot is handed, one value after the other, settles all its halves. -/
theorem Consecutive.eq_of_given {slot : Option (Transform σ α)}
    {left right : List (Half σ α)} (leftConsecutive : Consecutive slot left)
    (rightConsecutive : Consecutive slot right)
    (sameGiven : left.map given = right.map given) : left = right := by
  induction left generalizing slot right with
  | nil =>
      rw [List.map_nil, eq_comm, List.map_eq_nil_iff] at sameGiven
      exact sameGiven.symm
  | cons leftFirst leftRest inductionHypothesis =>
      cases right with
      | nil =>
          cases sameGiven
      | cons rightFirst rightRest =>
          obtain ⟨leftFound, leftRestConsecutive⟩ := leftConsecutive
          obtain ⟨rightFound, rightRestConsecutive⟩ := rightConsecutive
          rw [List.map_cons, List.map_cons, List.cons.injEq] at sameGiven
          obtain ⟨sameFirstGiven, sameRestGiven⟩ := sameGiven
          have sameFirst : leftFirst = rightFirst := by
            cases leftFirst
            cases rightFirst
            cases leftFound
            cases rightFound
            cases sameFirstGiven
            rfl
          rw [sameFirst] at leftRestConsecutive
          rw [sameFirst,
            inductionHypothesis leftRestConsecutive rightRestConsecutive
              sameRestGiven]

/-- The counter of a function shows consecutive numbers to its calls. -/
theorem Consecutive.shown {transform : Transform σ α} {count : σ → Nat}
    (counts : transform.Counts count) {halves : List (Half σ α)}
    (consecutive : Consecutive (some transform) halves) :
    halves.filterMap (shown? count) =
      List.range' (count transform.state + 1) halves.length := by
  induction halves generalizing transform with
  | nil =>
      rfl
  | cons first rest inductionHypothesis =>
      obtain ⟨found, restConsecutive⟩ := consecutive
      obtain ⟨once, onward⟩ := counts.call first.given
      have left : first.after = some (transform.call first.given).2 := by
        rw [after, found]
        rfl
      have firstShown :
          first.shown? count = some (count transform.state + 1) := by
        rw [shown?, left, Option.map_some, once]
      rw [left] at restConsecutive
      rw [List.filterMap_cons_some firstShown,
        inductionHypothesis onward restConsecutive, once,
        List.length_cons, List.range'_succ]

end Half

/-! ## Accesses put together from halves -/

/-- How accesses are put together, one for each drawn label.  An image half that
faults is the end of its access: no label half belongs to it.  Behind an image
half that returns there is a label half, and its answer decides. -/
inductive Composed :
    List Label → List (Half σ Image) → List (Half τ Label) → List Access → Prop
  | nil : Composed [] [] [] []
  | imageFault {draws : List Label} {images : List (Half σ Image)}
      {labels : List (Half τ Label)} {accesses : List Access}
      {image : Half σ Image} {fault : Fault} (drawn : Label)
      (imageGiven : image.given = Image.cifar)
      (faulted : image.answer = .error fault)
      (rest : Composed draws images labels accesses) :
      Composed (drawn :: draws) (image :: images) labels
        ({ outcome := .error fault, entered := image.calls.map .image } ::
          accesses)
  | both {draws : List Label} {images : List (Half σ Image)}
      {labels : List (Half τ Label)} {accesses : List Access}
      {image : Half σ Image} {label : Half τ Label} {made : Image}
      (drawn : Label)
      (imageGiven : image.given = Image.cifar)
      (returned : image.answer = .ok made)
      (labelGiven : label.given = drawn)
      (rest : Composed draws images labels accesses) :
      Composed (drawn :: draws) (image :: images) (label :: labels)
        ({ outcome := label.answer.map fun label => { image := made, label }
           entered := image.calls.map .image ++ label.calls.map .label } ::
          accesses)

namespace Composed

variable {draws : List Label} {images : List (Half σ Image)}
  {labels : List (Half τ Label)} {accesses : List Access}

theorem append {laterDraws : List Label} {laterImages : List (Half σ Image)}
    {laterLabels : List (Half τ Label)} {laterAccesses : List Access}
    (first : Composed draws images labels accesses)
    (second : Composed laterDraws laterImages laterLabels laterAccesses) :
    Composed (draws ++ laterDraws) (images ++ laterImages)
      (labels ++ laterLabels) (accesses ++ laterAccesses) := by
  induction first with
  | nil =>
      exact second
  | imageFault drawn imageGiven faulted _ inductionHypothesis =>
      exact imageFault drawn imageGiven faulted inductionHypothesis
  | both drawn imageGiven returned labelGiven _ inductionHypothesis =>
      exact both drawn imageGiven returned labelGiven inductionHypothesis

theorem length_images (composed : Composed draws images labels accesses) :
    images.length = draws.length := by
  induction composed with
  | nil =>
      rfl
  | imageFault _ _ _ _ inductionHypothesis =>
      rw [List.length_cons, List.length_cons, inductionHypothesis]
  | both _ _ _ _ _ inductionHypothesis =>
      rw [List.length_cons, List.length_cons, inductionHypothesis]

theorem length_accesses (composed : Composed draws images labels accesses) :
    accesses.length = draws.length := by
  induction composed with
  | nil =>
      rfl
  | imageFault _ _ _ _ inductionHypothesis =>
      rw [List.length_cons, List.length_cons, inductionHypothesis]
  | both _ _ _ _ _ inductionHypothesis =>
      rw [List.length_cons, List.length_cons, inductionHypothesis]

/-- The label halves are as many as the image halves that return. -/
theorem length_labels (composed : Composed draws images labels accesses) :
    labels.length = images.countP Half.returns := by
  induction composed with
  | nil =>
      rfl
  | imageFault _ _ faulted _ inductionHypothesis =>
      rw [List.countP_cons, Half.returns_of_error faulted,
        inductionHypothesis]
      rfl
  | both _ _ returned _ _ inductionHypothesis =>
      rw [List.countP_cons, Half.returns_of_ok returned, List.length_cons,
        inductionHypothesis]
      rfl

theorem given_images (composed : Composed draws images labels accesses) :
    images.map Half.given = List.replicate draws.length Image.cifar := by
  induction composed with
  | nil =>
      rfl
  | imageFault _ imageGiven _ _ inductionHypothesis =>
      rw [List.map_cons, imageGiven, inductionHypothesis, List.length_cons,
        List.replicate_succ]
  | both _ imageGiven _ _ _ inductionHypothesis =>
      rw [List.map_cons, imageGiven, inductionHypothesis, List.length_cons,
        List.replicate_succ]

/-- The label halves are handed the labels that were drawn for the accesses whose
image half returns. -/
theorem given_labels (composed : Composed draws images labels accesses) :
    labels.map Half.given =
      ((draws.zip images).filter fun entry => entry.2.returns).map
        Prod.fst := by
  induction composed with
  | nil =>
      rfl
  | @imageFault draws images labels accesses image fault drawn imageGiven
      faulted rest inductionHypothesis =>
      rw [List.zip_cons_cons, List.filter_cons, inductionHypothesis]
      simp only [Half.returns_of_error faulted, Bool.false_eq_true, if_false]
  | @both draws images labels accesses image label made drawn imageGiven
      returned labelGiven rest inductionHypothesis =>
      rw [List.map_cons, labelGiven, List.zip_cons_cons, List.filter_cons,
        inductionHypothesis]
      simp only [Half.returns_of_ok returned, if_true, List.map_cons]

theorem given_labels_of_made
    (composed : Composed draws images labels accesses)
    (allMade : ∀ half, half ∈ images → half.returns = true) :
    labels.map Half.given = draws := by
  have everyEntry :
      ∀ entry, entry ∈ draws.zip images → entry.2.returns = true := by
    intro entry member
    exact allMade entry.2 (List.of_mem_zip member).2
  rw [composed.given_labels, List.filter_eq_self.mpr everyEntry,
    List.map_fst_zip (Nat.le_of_eq composed.length_images.symm)]

theorem calls_images (composed : Composed draws images labels accesses) :
    accesses.flatMap Access.images = images.flatMap Half.calls := by
  induction composed with
  | nil =>
      rfl
  | imageFault _ _ _ _ inductionHypothesis =>
      rw [List.flatMap_cons, List.flatMap_cons, inductionHypothesis,
        Access.images, Entry.filterMap_image?_images]
  | both _ _ _ _ _ inductionHypothesis =>
      rw [List.flatMap_cons, List.flatMap_cons, inductionHypothesis,
        Access.images, List.filterMap_append, Entry.filterMap_image?_images,
        Entry.filterMap_image?_labels, List.append_nil]

theorem calls_labels (composed : Composed draws images labels accesses) :
    accesses.flatMap Access.labels = labels.flatMap Half.calls := by
  induction composed with
  | nil =>
      rfl
  | imageFault _ _ _ _ inductionHypothesis =>
      rw [List.flatMap_cons, inductionHypothesis, Access.labels,
        Entry.filterMap_label?_images, List.nil_append]
  | both _ _ _ _ _ inductionHypothesis =>
      rw [List.flatMap_cons, List.flatMap_cons, inductionHypothesis,
        Access.labels, List.filterMap_append, Entry.filterMap_label?_images,
        Entry.filterMap_label?_labels, List.nil_append]

/-- Where every image half returns, the label half decides what an access comes
to as far as labels are concerned. -/
theorem outcome_labels (composed : Composed draws images labels accesses)
    (allMade : ∀ half, half ∈ images → half.returns = true) :
    (accesses.map fun access => access.outcome.map Sample.label) =
      labels.map Half.answer := by
  induction composed with
  | nil =>
      rfl
  | @imageFault draws images labels accesses image fault drawn imageGiven
      faulted rest inductionHypothesis =>
      have made := allMade image List.mem_cons_self
      rw [Half.returns_of_error faulted] at made
      cases made
  | @both draws images labels accesses image label made drawn imageGiven
      returned labelGiven rest inductionHypothesis =>
      rw [List.forall_mem_cons] at allMade
      rw [List.map_cons, List.map_cons, inductionHypothesis allMade.2]
      cases label.answer with
      | error fault =>
          rfl
      | ok value =>
          rfl

end Composed

/-! ## The halves of one access -/

namespace Dataset

def imageHalf (dataset : Dataset σ τ) : Half σ Image where
  slot := dataset.imageTransform
  given := Image.cifar

def labelHalf (dataset : Dataset σ τ) (drawn : Label) : Half τ Label where
  slot := dataset.labelTransform
  given := drawn

theorem makeImage_eq (dataset : Dataset σ τ) :
    dataset.makeImage =
      (dataset.imageHalf.answer,
        { dataset with imageTransform := dataset.imageHalf.after }) :=
  rfl

theorem makeLabel_eq (dataset : Dataset σ τ) (drawn : Label) :
    dataset.makeLabel drawn =
      ((dataset.labelHalf drawn).answer,
        { dataset with labelTransform := (dataset.labelHalf drawn).after }) :=
  rfl

theorem access_of_imageFault {dataset : Dataset σ τ} {fault : Fault}
    (someClasses : dataset.classes ≠ 0)
    (faulted : dataset.imageHalf.answer = .error fault) (drawn : Label) :
    dataset.access drawn =
      ({ outcome := .error fault
         entered := dataset.imageHalf.calls.map .image },
        { dataset with imageTransform := dataset.imageHalf.after }) := by
  have imageHandled := dataset.imageHalf.handled
  rw [faulted] at imageHandled
  exact (AccessRun.imageFault someClasses imageHandled).access_eq

theorem access_of_image {dataset : Dataset σ τ} {made : Image}
    (someClasses : dataset.classes ≠ 0)
    (returned : dataset.imageHalf.answer = .ok made) (drawn : Label) :
    dataset.access drawn =
      ({ outcome :=
           (dataset.labelHalf drawn).answer.map fun label =>
             { image := made, label }
         entered :=
           dataset.imageHalf.calls.map .image ++
             (dataset.labelHalf drawn).calls.map .label },
        { dataset with
          imageTransform := dataset.imageHalf.after
          labelTransform := (dataset.labelHalf drawn).after }) := by
  have imageHandled := dataset.imageHalf.handled
  have labelHandled := (dataset.labelHalf drawn).handled
  rw [returned] at imageHandled
  cases answered : (dataset.labelHalf drawn).answer with
  | error fault =>
      rw [answered] at labelHandled
      exact
        (AccessRun.labelFault someClasses imageHandled labelHandled).access_eq
  | ok label =>
      rw [answered] at labelHandled
      exact (AccessRun.sample someClasses imageHandled labelHandled).access_eq

/-- The same collection at a later time: its split may have been assigned and
its functions may have been called, and nothing else has happened to it. -/
structure Later (earlier later : Dataset σ τ) : Prop where
  classes : later.classes = earlier.classes
  root : later.root = earlier.root
  download : later.download = earlier.download
  imageTransform :
    Transform.Later earlier.imageTransform later.imageTransform
  labelTransform :
    Transform.Later earlier.labelTransform later.labelTransform

/-- The same collection at a later time, with the same split. -/
structure Used (earlier later : Dataset σ τ) : Prop
    extends Later earlier later where
  split : later.split = earlier.split

theorem Later.refl (dataset : Dataset σ τ) : Later dataset dataset :=
  ⟨rfl, rfl, rfl, Transform.Later.refl _, Transform.Later.refl _⟩

theorem Later.trans {first second third : Dataset σ τ}
    (firstLater : Later first second) (secondLater : Later second third) :
    Later first third :=
  ⟨secondLater.classes.trans firstLater.classes,
    secondLater.root.trans firstLater.root,
    secondLater.download.trans firstLater.download,
    firstLater.imageTransform.trans secondLater.imageTransform,
    firstLater.labelTransform.trans secondLater.labelTransform⟩

theorem Used.refl (dataset : Dataset σ τ) : Used dataset dataset :=
  ⟨Later.refl dataset, rfl⟩

theorem Used.trans {first second third : Dataset σ τ}
    (firstUsed : Used first second) (secondUsed : Used second third) :
    Used first third :=
  ⟨firstUsed.toLater.trans secondUsed.toLater,
    secondUsed.split.trans firstUsed.split⟩

end Dataset

theorem AccessRun.used {dataset after : Dataset σ τ} {drawn : Label}
    {access : Access} (run : AccessRun dataset drawn access after) :
    dataset.Used after := by
  have imageLater :
      Transform.Later dataset.imageTransform after.imageTransform :=
    ⟨access.images, run.imageTransform_eq⟩
  have labelLater :
      Transform.Later dataset.labelTransform after.labelTransform :=
    ⟨access.labels, run.labelTransform_eq⟩
  cases run with
  | emptyRange =>
      exact Dataset.Used.refl dataset
  | imageFault =>
      exact ⟨⟨rfl, rfl, rfl, imageLater, labelLater⟩, rfl⟩
  | labelFault =>
      exact ⟨⟨rfl, rfl, rfl, imageLater, labelLater⟩, rfl⟩
  | sample =>
      exact ⟨⟨rfl, rfl, rfl, imageLater, labelLater⟩, rfl⟩

namespace Dataset

theorem used_access (dataset : Dataset σ τ) (drawn : Label) :
    dataset.Used (dataset.access drawn).2 :=
  (dataset.access_run drawn).used

theorem used_accessAll (dataset : Dataset σ τ) (draws : List Label) :
    dataset.Used (dataset.accessAll draws).2 := by
  induction draws generalizing dataset with
  | nil =>
      exact Used.refl dataset
  | cons drawn rest inductionHypothesis =>
      rw [accessAll_cons]
      exact
        (dataset.used_access drawn).trans
          (inductionHypothesis (dataset.access drawn).2)

/-! ## The halves of accesses one after the other -/

/-- The image halves of accesses, one for each drawn label.  Without classes
nothing is made. -/
def imageHalves (dataset : Dataset σ τ) : List Label → List (Half σ Image)
  | [] => []
  | drawn :: rest =>
      (if dataset.classes = 0 then [] else [dataset.imageHalf]) ++
        (dataset.access drawn).2.imageHalves rest

/-- The label halves of accesses, one behind each image half that returns. -/
def labelHalves (dataset : Dataset σ τ) : List Label → List (Half τ Label)
  | [] => []
  | drawn :: rest =>
      (if dataset.classes ≠ 0 ∧ dataset.imageHalf.returns then
        [dataset.labelHalf drawn]
      else []) ++ (dataset.access drawn).2.labelHalves rest

section

variable {dataset : Dataset σ τ}

theorem imageHalves_cons (someClasses : dataset.classes ≠ 0) (drawn : Label)
    (rest : List Label) :
    dataset.imageHalves (drawn :: rest) =
      dataset.imageHalf :: (dataset.access drawn).2.imageHalves rest := by
  rw [imageHalves, if_neg someClasses]
  rfl

theorem labelHalves_cons_of_imageFault {fault : Fault}
    (faulted : dataset.imageHalf.answer = .error fault) (drawn : Label)
    (rest : List Label) :
    dataset.labelHalves (drawn :: rest) =
      (dataset.access drawn).2.labelHalves rest := by
  have unmade : ¬ (dataset.classes ≠ 0 ∧ dataset.imageHalf.returns) := by
    rintro ⟨_, returned⟩
    rw [Half.returns_of_error faulted] at returned
    cases returned
  rw [labelHalves, if_neg unmade, List.nil_append]

theorem labelHalves_cons_of_image {made : Image}
    (someClasses : dataset.classes ≠ 0)
    (returned : dataset.imageHalf.answer = .ok made) (drawn : Label)
    (rest : List Label) :
    dataset.labelHalves (drawn :: rest) =
      dataset.labelHalf drawn ::
        (dataset.access drawn).2.labelHalves rest := by
  have isMade : dataset.classes ≠ 0 ∧ dataset.imageHalf.returns :=
    ⟨someClasses, Half.returns_of_ok returned⟩
  rw [labelHalves, if_pos isMade]
  rfl

end

theorem classes_access (dataset : Dataset σ τ) (drawn : Label) :
    (dataset.access drawn).2.classes = dataset.classes :=
  (dataset.used_access drawn).classes

/-- The accesses of a sequence are put together from its halves. -/
theorem composed_accessAll {dataset : Dataset σ τ}
    (someClasses : dataset.classes ≠ 0) (draws : List Label) :
    Composed draws (dataset.imageHalves draws) (dataset.labelHalves draws)
      (dataset.accessAll draws).1 := by
  induction draws generalizing dataset with
  | nil =>
      exact Composed.nil
  | cons drawn rest inductionHypothesis =>
      have restComposed :
          Composed rest
            ((dataset.access drawn).2.imageHalves rest)
            ((dataset.access drawn).2.labelHalves rest)
            ((dataset.access drawn).2.accessAll rest).1 := by
        apply inductionHypothesis
        rw [classes_access]
        exact someClasses
      rw [imageHalves_cons someClasses, accessAll_cons]
      dsimp only
      cases answered : dataset.imageHalf.answer with
      | error fault =>
          rw [labelHalves_cons_of_imageFault answered,
            congrArg Prod.fst (access_of_imageFault someClasses answered drawn)]
          exact Composed.imageFault drawn rfl answered restComposed
      | ok made =>
          rw [labelHalves_cons_of_image someClasses answered,
            congrArg Prod.fst (access_of_image someClasses answered drawn)]
          exact Composed.both drawn rfl answered rfl restComposed

/-- In a sequence of accesses, each half finds its slot as the one before of its
kind has left it. -/
theorem consecutive_halves {dataset : Dataset σ τ}
    (someClasses : dataset.classes ≠ 0) (draws : List Label) :
    Half.Consecutive dataset.imageTransform (dataset.imageHalves draws) ∧
      Half.Consecutive dataset.labelTransform (dataset.labelHalves draws) := by
  induction draws generalizing dataset with
  | nil =>
      exact ⟨trivial, trivial⟩
  | cons drawn rest inductionHypothesis =>
      have stillClasses : (dataset.access drawn).2.classes ≠ 0 := by
        rw [classes_access]
        exact someClasses
      obtain ⟨restImages, restLabels⟩ := inductionHypothesis stillClasses
      rw [imageHalves_cons someClasses]
      cases answered : dataset.imageHalf.answer with
      | error fault =>
          -- No label half is made here: the next finds the slot as it is.
          rw [labelHalves_cons_of_imageFault answered]
          rw [access_of_imageFault someClasses answered]
            at restImages restLabels ⊢
          exact ⟨⟨rfl, restImages⟩, restLabels⟩
      | ok made =>
          rw [labelHalves_cons_of_image someClasses answered]
          rw [access_of_image someClasses answered]
            at restImages restLabels ⊢
          exact ⟨⟨rfl, restImages⟩, ⟨rfl, restLabels⟩⟩

end Dataset

/-! ## Slots without memory -/

/-- Where neither slot has a memory, accesses that are put together from halves
of these slots do not depend on one another. -/
theorem Composed.eq_map_access {draws : List Label}
    {images : List (Half σ Image)} {labels : List (Half τ Label)}
    {accesses : List Access}
    (composed : Composed draws images labels accesses)
    {dataset : Dataset σ τ} (someClasses : dataset.classes ≠ 0)
    (imageStateless : Transform.Stateless dataset.imageTransform)
    (labelStateless : Transform.Stateless dataset.labelTransform)
    (imagesLater : ∀ half, half ∈ images →
      Transform.Later dataset.imageTransform half.slot)
    (labelsLater : ∀ half, half ∈ labels →
      Transform.Later dataset.labelTransform half.slot) :
    accesses = draws.map fun drawn => (dataset.access drawn).1 := by
  induction composed with
  | nil =>
      rfl
  | @imageFault draws images labels accesses image fault drawn imageGiven
      faulted rest inductionHypothesis =>
      rw [List.forall_mem_cons] at imagesLater
      obtain ⟨sameAnswer, sameCalls⟩ :=
        Half.eq_of_stateless imageStateless imagesLater.1
      rw [imageGiven] at sameAnswer sameCalls
      have datasetFaulted : dataset.imageHalf.answer = .error fault :=
        sameAnswer.symm.trans faulted
      rw [List.map_cons, dataset.access_of_imageFault someClasses datasetFaulted,
        inductionHypothesis imagesLater.2 labelsLater, sameCalls]
      rfl
  | @both draws images labels accesses image label made drawn imageGiven
      returned labelGiven rest inductionHypothesis =>
      rw [List.forall_mem_cons] at imagesLater labelsLater
      obtain ⟨sameAnswer, sameCalls⟩ :=
        Half.eq_of_stateless imageStateless imagesLater.1
      obtain ⟨sameLabelAnswer, sameLabelCalls⟩ :=
        Half.eq_of_stateless labelStateless labelsLater.1
      rw [imageGiven] at sameAnswer sameCalls
      rw [labelGiven] at sameLabelAnswer sameLabelCalls
      have datasetReturned : dataset.imageHalf.answer = .ok made :=
        sameAnswer.symm.trans returned
      rw [List.map_cons, dataset.access_of_image someClasses datasetReturned,
        inductionHypothesis imagesLater.2 labelsLater.2, sameCalls,
        sameLabelAnswer, sameLabelCalls]
      rfl

theorem Dataset.accessAll_of_stateless {dataset : Dataset σ τ}
    (someClasses : dataset.classes ≠ 0)
    (imageStateless : Transform.Stateless dataset.imageTransform)
    (labelStateless : Transform.Stateless dataset.labelTransform)
    (draws : List Label) :
    (dataset.accessAll draws).1 =
      draws.map fun drawn => (dataset.access drawn).1 :=
  (composed_accessAll someClasses draws).eq_map_access someClasses
    imageStateless labelStateless
    (consecutive_halves someClasses draws).1.later
    (consecutive_halves someClasses draws).2.later

end BlankImages
