import Mathlib.Tactic.Choose
import BlankImages.Proofs.SampleHalves
import BlankImages.Proofs.VisitReading

/-!
# What a sequence of items can come to

Nothing is known of the labels that are drawn but that each belongs to a class.
Where the functions have no memory, the sequences of outcomes that this allows are
those in which every outcome is allowed by itself: no draw, no index and no
earlier outcome restricts a later one.
-/

namespace BlankImages

variable {σ τ : Type}

namespace Draws

def ofList (labels : List Label) : Draws :=
  fun position => labels.getD position 0

theorem segment_ofList (labels : List Label) :
    (ofList labels).segment 0 labels.length = labels := by
  apply List.ext_getElem
  · exact length_segment _ _ _
  · intro position withinSegment within
    simp [segment, ofList, within]

theorem below_ofList {labels : List Label} {classes : Word}
    (someClasses : classes ≠ 0)
    (each : ∀ label, label ∈ labels → label < classes) :
    (ofList labels).Below classes := by
  have zeroBelow : 0 < classes := UInt64.pos_iff_ne_zero.mpr someClasses
  intro position
  by_cases within : position < labels.length
  · have found : ofList labels position = labels[position] := by
      simp [ofList, within]
    rw [found]
    exact each _ (List.getElem_mem within)
  · have past : ofList labels position = 0 := by
      simp [ofList, Nat.le_of_not_lt within]
    rw [past]
    exact zeroBelow

end Draws

namespace Dataset

/-- Outcomes that the items at some indices can have: those that some labels of
existing classes, when they are drawn, give. -/
def Possible (dataset : Dataset σ τ) (indices : List Word)
    (outcomes : List (Except Fault Sample)) : Prop :=
  ∃ draws : Draws, draws.Below dataset.classes ∧
    (dataset.itemsAt
        (indices.zip (draws.segment 0 indices.length))).1.map
      Access.outcome = outcomes

/-- What an access comes to in which the image half returns `image` and `drawn`
is drawn: the sample with the answer of the function on labels, or the fault of
that function. -/
inductive Yields (dataset : Dataset σ τ) (image : Image) (drawn : Label) :
    Except Fault Sample → Prop
  | sample {label : Label}
      (returned :
        (Transform.apply dataset.labelTransform drawn).1 = .ok label) :
      Yields dataset image drawn (.ok { image, label })
  | fault {fault : Fault}
      (faulted :
        (Transform.apply dataset.labelTransform drawn).1 = .error fault) :
      Yields dataset image drawn (.error fault)

section

variable {dataset : Dataset σ τ} {image : Image}

theorem yields_iff (someClasses : dataset.classes ≠ 0)
    (imageReturns :
      (Transform.apply dataset.imageTransform Image.cifar).1 = .ok image)
    {drawn : Label} {outcome : Except Fault Sample} :
    dataset.Yields image drawn outcome ↔
      (dataset.access drawn).1.outcome = outcome := by
  have reached := access_of_image someClasses imageReturns drawn
  have answerShape :
      (dataset.labelHalf drawn).answer =
        (Transform.apply dataset.labelTransform drawn).1 :=
    rfl
  rw [reached]
  dsimp only
  constructor
  · intro yields
    cases yields with
    | sample returned =>
        rw [answerShape, returned]
        rfl
    | fault faulted =>
        rw [answerShape, faulted]
        rfl
  · rintro rfl
    cases answered : (dataset.labelHalf drawn).answer with
    | error fault =>
        exact Yields.fault answered
    | ok label =>
        exact Yields.sample answered

/-- Without memory in the functions the outcomes of items are the outcomes of
accesses of the collection as it was, label by label. -/
theorem outcomes_of_stateless (someClasses : dataset.classes ≠ 0)
    (imageStateless : Transform.Stateless dataset.imageTransform)
    (labelStateless : Transform.Stateless dataset.labelTransform)
    {indices : List Word} {labels : List Label}
    (enough : labels.length ≤ indices.length) :
    (dataset.itemsAt (indices.zip labels)).1.map Access.outcome =
      labels.map fun drawn => (dataset.access drawn).1.outcome := by
  rw [itemsAt_zip dataset enough,
    accessAll_of_stateless someClasses imageStateless labelStateless,
    List.map_map]
  rfl

/-- A sequence of outcomes is possible when each of them is, by itself. -/
theorem possible_iff_forall (someClasses : dataset.classes ≠ 0)
    (imageStateless : Transform.Stateless dataset.imageTransform)
    (labelStateless : Transform.Stateless dataset.labelTransform)
    (imageReturns :
      (Transform.apply dataset.imageTransform Image.cifar).1 = .ok image)
    {indices : List Word} {outcomes : List (Except Fault Sample)} :
    dataset.Possible indices outcomes ↔
      outcomes.length = indices.length ∧
        ∀ outcome, outcome ∈ outcomes →
          ∃ drawn, drawn < dataset.classes ∧
            dataset.Yields image drawn outcome := by
  constructor
  · rintro ⟨draws, below, rfl⟩
    have segmentLength := draws.length_segment 0 indices.length
    rw [outcomes_of_stateless someClasses imageStateless labelStateless
      (Nat.le_of_eq segmentLength)]
    refine ⟨?_, ?_⟩
    · rw [List.length_map, segmentLength]
    · intro outcome member
      obtain ⟨drawn, drawnMember, reached⟩ := List.mem_map.mp member
      exact
        ⟨drawn, Draws.lt_of_mem_segment below drawnMember,
          (yields_iff someClasses imageReturns).mpr reached⟩
  · rintro ⟨sameLength, each⟩
    choose! drawnFor drawnBelow yields using each
    -- Draw for every position the label that its outcome asks for.
    let labels := outcomes.map drawnFor
    have labelsLength : labels.length = indices.length := by
      rw [List.length_map, sameLength]
    have labelsBelow : ∀ label, label ∈ labels → label < dataset.classes := by
      intro label member
      obtain ⟨outcome, outcomeMember, rfl⟩ := List.mem_map.mp member
      exact drawnBelow outcome outcomeMember
    refine
      ⟨Draws.ofList labels, Draws.below_ofList someClasses labelsBelow, ?_⟩
    rw [← labelsLength, Draws.segment_ofList,
      outcomes_of_stateless someClasses imageStateless labelStateless
        (Nat.le_of_eq labelsLength),
      List.map_map]
    calc
      outcomes.map
          ((fun drawn => (dataset.access drawn).1.outcome) ∘ drawnFor) =
          outcomes.map id := by
        apply List.map_congr_left
        intro outcome member
        exact
          (yields_iff someClasses imageReturns).mp (yields outcome member)
      _ = outcomes := List.map_id outcomes

end

end Dataset

/-- The possible outcomes of items are the sequences of outcomes each of which
some label yields.  There is such a sequence for any indices, and in each of them
any outcome can be exchanged for what any label yields. -/
theorem possible_outcomes_independent {dataset : Dataset σ τ} {image : Image}
    (someClasses : dataset.classes ≠ 0)
    (imageStateless : Transform.Stateless dataset.imageTransform)
    (labelStateless : Transform.Stateless dataset.labelTransform)
    (imageReturns :
      (Transform.apply dataset.imageTransform ⟨3, 32, 32⟩).1 = .ok image)
    (indices : List Word) :
    (∀ outcomes, dataset.Possible indices outcomes ↔
      outcomes.length = indices.length ∧
        ∀ outcome, outcome ∈ outcomes →
          ∃ drawn, drawn < dataset.classes ∧
            dataset.Yields image drawn outcome) ∧
    (∃ outcomes, dataset.Possible indices outcomes) ∧
    (∀ outcomes, dataset.Possible indices outcomes →
      ∀ number drawn, number < indices.length → drawn < dataset.classes →
        ∃ outcome, dataset.Yields image drawn outcome ∧
          dataset.Possible indices (outcomes.set number outcome) ∧
          (outcomes.set number outcome)[number]? = some outcome) := by
  have characterised :
      ∀ outcomes, dataset.Possible indices outcomes ↔
        outcomes.length = indices.length ∧
          ∀ outcome, outcome ∈ outcomes →
            ∃ drawn, drawn < dataset.classes ∧
              dataset.Yields image drawn outcome :=
    fun _ =>
      Dataset.possible_iff_forall someClasses imageStateless labelStateless
        imageReturns
  refine ⟨characterised, ?_, ?_⟩
  · have zeroBelow : (Draws.ofList []).Below dataset.classes :=
      Draws.below_ofList someClasses (by simp)
    exact ⟨_, Draws.ofList [], zeroBelow, rfl⟩
  · intro outcomes possible number drawn within below
    obtain ⟨sameLength, each⟩ := (characterised outcomes).mp possible
    have yields :
        dataset.Yields image drawn (dataset.access drawn).1.outcome :=
      (Dataset.yields_iff someClasses imageReturns).mpr rfl
    refine ⟨(dataset.access drawn).1.outcome, yields, ?_, ?_⟩
    · apply (characterised _).mpr
      refine ⟨by rw [List.length_set, sameLength], ?_⟩
      intro outcome member
      rcases List.mem_or_eq_of_mem_set member with kept | exchanged
      · exact each outcome kept
      · rw [exchanged]
        exact ⟨drawn, below, yields⟩
    · rw [← sameLength] at within
      exact List.getElem?_set_self within

/-- Three items at the same index: a fault, a sample and a fault again are
possible, with the sample in any place, and no other fault is. -/
theorem possible_outcomes_at_one_index :
    let dataset : Dataset Unit Unit :=
      { classes := 3
        root := { bytes := [] }
        split := .test
        download := false
        imageTransform :=
          some (Transform.pure fun image => .ok (image.withShape 1 8 8))
        labelTransform :=
          some
            (Transform.pure fun label =>
              if label < 2 then .error (.raised "low") else .ok (label + 5)) }
    let image : Image := { channels := 1, height := 8, width := 8 }
    let outcomes : List (Except Fault Sample) :=
      [.error (.raised "low"), .ok { image, label := 7 },
        .error (.raised "low")]
    (dataset.classes ≠ 0 ∧
      Transform.Stateless dataset.imageTransform ∧
      Transform.Stateless dataset.labelTransform ∧
      (Transform.apply dataset.imageTransform ⟨3, 32, 32⟩).1 = .ok image) ∧
    dataset.Possible [4, 4, 4] outcomes ∧
    ¬ dataset.Possible [4, 4]
      [.error (.raised "low"), .error (.raised "high")] ∧
    ∃ outcome, dataset.Yields image 2 outcome ∧
      dataset.Possible [4, 4, 4] (outcomes.set 2 outcome) := by
  intro dataset image outcomes
  have someClasses : dataset.classes ≠ 0 := by
    decide
  have imageStateless : Transform.Stateless dataset.imageTransform :=
    Transform.stateless_pure _
  have labelStateless : Transform.Stateless dataset.labelTransform :=
    Transform.stateless_pure _
  have imageReturns :
      (Transform.apply dataset.imageTransform ⟨3, 32, 32⟩).1 = .ok image :=
    rfl
  have three :=
    possible_outcomes_independent someClasses imageStateless labelStateless
      imageReturns [4, 4, 4]
  have two :=
    possible_outcomes_independent someClasses imageStateless labelStateless
      imageReturns [4, 4]
  have low : dataset.Yields image 0 (.error (.raised "low")) :=
    Dataset.Yields.fault (by decide +kernel)
  have high : dataset.Yields image 2 (.ok { image, label := 7 }) :=
    Dataset.Yields.sample (by decide +kernel)
  have possible : dataset.Possible [4, 4, 4] outcomes := by
    apply (three.1 outcomes).mpr
    refine ⟨rfl, ?_⟩
    intro outcome member
    simp only [outcomes, List.mem_cons, List.not_mem_nil, or_false] at member
    rcases member with rfl | rfl | rfl
    · exact ⟨0, by decide, low⟩
    · exact ⟨2, by decide, high⟩
    · exact ⟨0, by decide, low⟩
  obtain ⟨outcome, yields, exchanged, _⟩ :=
    three.2.2 outcomes possible 2 2 (by decide) (by decide)
  refine
    ⟨⟨someClasses, imageStateless, labelStateless, imageReturns⟩, possible,
      ?_, outcome, yields, exchanged⟩
  intro impossible
  obtain ⟨_, each⟩ := (two.1 _).mp impossible
  obtain ⟨drawn, _, otherYields⟩ :=
    each (.error (.raised "high")) (by simp)
  cases otherYields with
  | fault faulted =>
      by_cases isLow : drawn < 2
      · simp [dataset, Transform.call, Transform.pure, isLow] at faulted
      · simp [dataset, Transform.call, Transform.pure, isLow] at faulted

end BlankImages
