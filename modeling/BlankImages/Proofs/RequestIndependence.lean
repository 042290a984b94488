import BlankImages.Proofs.VisitReading
import BlankImages.Session

/-!
# Samples do not depend on how they are asked for

Whoever uses a collection may ask for items at any index and by either name,
assign its split, open visits in any order and read on from any of them.  What
comes out, and what the functions are given, depends on none of this: it is the
sequence of accesses for the labels that were drawn.
-/

namespace BlankImages

variable {σ τ : Type}

/-! ## Collections with the same functions -/

namespace Dataset

/-- The two collections have as many classes and the same functions in the same
states.  Root path, split and download may differ. -/
structure Alike (left right : Dataset σ τ) : Prop where
  classes : left.classes = right.classes
  imageTransform : left.imageTransform = right.imageTransform
  labelTransform : left.labelTransform = right.labelTransform

namespace Alike

variable {left middle right : Dataset σ τ}

theorem refl (dataset : Dataset σ τ) : Alike dataset dataset :=
  ⟨rfl, rfl, rfl⟩

theorem symm (alike : Alike left right) : Alike right left :=
  ⟨alike.classes.symm, alike.imageTransform.symm, alike.labelTransform.symm⟩

theorem trans (first : Alike left middle) (second : Alike middle right) :
    Alike left right :=
  ⟨first.classes.trans second.classes,
    first.imageTransform.trans second.imageTransform,
    first.labelTransform.trans second.labelTransform⟩

/-- A rule that applies to a collection applies to every one like it. -/
theorem run {leftAfter : Dataset σ τ} {drawn : Label} {access : Access}
    (alike : Alike left right)
    (leftRun : AccessRun left drawn access leftAfter) :
    ∃ rightAfter, AccessRun right drawn access rightAfter ∧
      Alike leftAfter rightAfter := by
  obtain ⟨sameClasses, sameImageTransform, sameLabelTransform⟩ := alike
  cases leftRun with
  | emptyRange noClasses =>
      rw [sameClasses] at noClasses
      exact
        ⟨right, AccessRun.emptyRange noClasses,
          sameClasses, sameImageTransform, sameLabelTransform⟩
  | imageFault someClasses imageHandled =>
      rw [sameClasses] at someClasses
      rw [sameImageTransform] at imageHandled
      exact
        ⟨_, AccessRun.imageFault someClasses imageHandled,
          sameClasses, rfl, sameLabelTransform⟩
  | labelFault someClasses imageHandled labelHandled =>
      rw [sameClasses] at someClasses
      rw [sameImageTransform] at imageHandled
      rw [sameLabelTransform] at labelHandled
      exact
        ⟨_, AccessRun.labelFault someClasses imageHandled labelHandled,
          sameClasses, rfl, rfl⟩
  | sample someClasses imageHandled labelHandled =>
      rw [sameClasses] at someClasses
      rw [sameImageTransform] at imageHandled
      rw [sameLabelTransform] at labelHandled
      exact
        ⟨_, AccessRun.sample someClasses imageHandled labelHandled,
          sameClasses, rfl, rfl⟩

theorem access (alike : Alike left right) (drawn : Label) :
    (left.access drawn).1 = (right.access drawn).1 ∧
      Alike (left.access drawn).2 (right.access drawn).2 := by
  obtain ⟨rightAfter, rightRun, afterAlike⟩ :=
    alike.run (left.access_run drawn)
  rw [rightRun.access_eq]
  exact ⟨rfl, afterAlike⟩

theorem accessAll (alike : Alike left right) (draws : List Label) :
    (left.accessAll draws).1 = (right.accessAll draws).1 ∧
      Alike (left.accessAll draws).2 (right.accessAll draws).2 := by
  induction draws generalizing left right with
  | nil =>
      exact ⟨rfl, alike⟩
  | cons drawn rest inductionHypothesis =>
      obtain ⟨sameAccess, afterAlike⟩ := alike.access drawn
      obtain ⟨sameRest, lastAlike⟩ := inductionHypothesis afterAlike
      rw [accessAll_cons, accessAll_cons, sameAccess, sameRest]
      exact ⟨rfl, lastAlike⟩

end Alike

end Dataset

/-! ## Requests -/

/-- What a user of a collection can do with it. -/
inductive Request where
  /-- Ask for the item at an index, by one of the two names. -/
  | ask (route : Session.Route) (index : Word)
  | assignSplit (split : Split)
  /-- Open a visit of the indices in the order that `shuffle` brings them to. -/
  | visit (shuffle : List Word → List Word)
  /-- Read at most `limit` further items of the visit with a number. -/
  | read (number limit : Nat)

/-- A collection in use, with the indices still to come in each open visit. -/
structure Desk (σ τ : Type) where
  dataset : Dataset σ τ
  visits : List (List Word)

namespace Desk

def start (dataset : Dataset σ τ) : Desk σ τ where
  dataset := dataset
  visits := []

/-- One request, which may make accesses; the labels for these are drawn from a
position on. -/
def serve (desk : Desk σ τ) (draws : Draws) (position : Nat) :
    Request → List Access × Desk σ τ
  | .ask route index =>
      let (access, after) :=
        Session.itemBy route desk.dataset index (draws position)
      ([access], { desk with dataset := after })
  | .assignSplit split =>
      ([], { desk with dataset := desk.dataset.withSplit split })
  | .visit shuffle =>
      let order := shuffle (Collection.indices desk.dataset)
      ([], { desk with visits := desk.visits ++ [order] })
  | .read number limit =>
      match desk.visits[number]? with
      | none => ([], desk)
      | some pending =>
          let visit : Iteration σ τ := { dataset := desk.dataset, pending }
          let (accesses, after) := visit.read (draws.segment position limit)
          (accesses,
            { dataset := after.dataset
              visits := desk.visits.set number after.pending })

/-- Requests in order, each drawing where the one before it stopped. -/
def serveAll (desk : Desk σ τ) (draws : Draws) (position : Nat) :
    List Request → List Access × Desk σ τ
  | [] => ([], desk)
  | request :: rest =>
      let (accesses, after) := desk.serve draws position request
      let (later, last) :=
        after.serveAll draws (position + accesses.length) rest
      (accesses ++ later, last)

theorem serveAll_cons (desk : Desk σ τ) (draws : Draws) (position : Nat)
    (request : Request) (rest : List Request) :
    desk.serveAll draws position (request :: rest) =
      let served := desk.serve draws position request
      let later :=
        served.2.serveAll draws (position + served.1.length) rest
      (served.1 ++ later.1, later.2) :=
  rfl

/-- The accesses of one request are the next ones in the sequence of accesses. -/
theorem serve_eq_accessAll (desk : Desk σ τ) (draws : Draws) (position : Nat)
    (request : Request) :
    let served := desk.serve draws position request
    let sequence :=
      desk.dataset.accessAll (draws.segment position served.1.length)
    served.1 = sequence.1 ∧
      Dataset.Alike served.2.dataset sequence.2 := by
  cases request with
  | ask route index =>
      cases route with
      | direct =>
          exact ⟨rfl, Dataset.Alike.refl _⟩
      | shared =>
          exact ⟨rfl, Dataset.Alike.refl _⟩
  | assignSplit split =>
      exact ⟨rfl, rfl, rfl, rfl⟩
  | visit shuffle =>
      exact ⟨rfl, Dataset.Alike.refl _⟩
  | read number limit =>
      cases opened : desk.visits[number]? with
      | none =>
          simp only [serve, opened]
          exact ⟨rfl, Dataset.Alike.refl _⟩
      | some pending =>
          simp only [serve, opened]
          obtain ⟨withinLimit, sameAccesses, sameDataset⟩ :=
            Iteration.read_eq_accessAll
              { dataset := desk.dataset, pending }
              (draws.segment position limit)
          rw [Draws.length_segment] at withinLimit
          rw [Draws.take_segment draws position withinLimit]
            at sameAccesses sameDataset
          refine ⟨sameAccesses, ?_⟩
          rw [sameDataset]
          exact Dataset.Alike.refl _

theorem serveAll_eq_accessAll (desk : Desk σ τ) (draws : Draws)
    (position : Nat) (requests : List Request) :
    let served := desk.serveAll draws position requests
    let sequence :=
      desk.dataset.accessAll (draws.segment position served.1.length)
    served.1 = sequence.1 ∧
      Dataset.Alike served.2.dataset sequence.2 := by
  induction requests generalizing desk position with
  | nil =>
      exact ⟨rfl, Dataset.Alike.refl _⟩
  | cons request rest inductionHypothesis =>
      obtain ⟨sameAccesses, afterAlike⟩ :=
        serve_eq_accessAll desk draws position request
      rw [serveAll_cons]
      dsimp only
      generalize desk.serve draws position request = served
        at sameAccesses afterAlike ⊢
      obtain ⟨sameLater, lastAlike⟩ :=
        inductionHypothesis served.2 (position + served.1.length)
      generalize
        served.2.serveAll draws (position + served.1.length) rest = later
        at sameLater lastAlike ⊢
      -- The first request may have assigned a split, so the collection that it
      -- leaves is only like the one at which the sequence has arrived.
      obtain ⟨sameSequence, sequenceAlike⟩ :=
        afterAlike.accessAll
          (draws.segment (position + served.1.length) later.1.length)
      rw [List.length_append, Draws.segment_add, Dataset.accessAll_append]
      refine ⟨?_, lastAlike.trans sequenceAlike⟩
      dsimp only
      rw [← sameAccesses, ← sameSequence, ← sameLater]

theorem take_serveAll (desk : Desk σ τ) (draws : Draws) (position : Nat)
    (requests : List Request) {count : Nat}
    (reaches :
      count ≤ (desk.serveAll draws position requests).1.length) :
    (desk.serveAll draws position requests).1.take count =
      (desk.dataset.accessAll (draws.segment position count)).1 := by
  have served :=
    (serveAll_eq_accessAll desk draws position requests).1
  rw [served, ← Dataset.accessAll_take,
    Draws.take_segment draws position reaches]

end Desk

/-- Two users of collections with the same functions, who draw the same labels
for their first `count` accesses, get the same outcomes from them, and the
functions are given the same values in the same order.  If that is all that they
access, the functions end in the same states. -/
theorem serveAll_independent {left right : Desk σ τ}
    (alike : left.dataset.Alike right.dataset)
    (leftDraws rightDraws : Draws) (leftPosition rightPosition count : Nat)
    (sameDraws : ∀ offset, offset < count →
      leftDraws (leftPosition + offset) = rightDraws (rightPosition + offset))
    (leftRequests rightRequests : List Request)
    (leftReaches :
      count ≤
        (left.serveAll leftDraws leftPosition leftRequests).1.length)
    (rightReaches :
      count ≤
        (right.serveAll rightDraws rightPosition rightRequests).1.length) :
    let leftServed := left.serveAll leftDraws leftPosition leftRequests
    let rightServed := right.serveAll rightDraws rightPosition rightRequests
    leftServed.1.take count = rightServed.1.take count ∧
      (leftServed.1.length = count → rightServed.1.length = count →
        leftServed.2.dataset.Alike rightServed.2.dataset) := by
  intro leftServed rightServed
  have sameSegment :
      leftDraws.segment leftPosition count =
        rightDraws.segment rightPosition count :=
    Draws.segment_congr sameDraws
  obtain ⟨sameSequence, sequenceAlike⟩ :=
    alike.accessAll (rightDraws.segment rightPosition count)
  constructor
  · calc
      leftServed.1.take count =
          (left.dataset.accessAll
            (leftDraws.segment leftPosition count)).1 :=
        Desk.take_serveAll left leftDraws leftPosition leftRequests
          leftReaches
      _ = (right.dataset.accessAll
            (rightDraws.segment rightPosition count)).1 := by
        rw [sameSegment, sameSequence]
      _ = rightServed.1.take count :=
        (Desk.take_serveAll right rightDraws rightPosition rightRequests
          rightReaches).symm
  · intro leftCount rightCount
    have leftAlike :=
      (Desk.serveAll_eq_accessAll left leftDraws leftPosition
        leftRequests).2
    have rightAlike :=
      (Desk.serveAll_eq_accessAll right rightDraws rightPosition
        rightRequests).2
    rw [leftCount, sameSegment] at leftAlike
    rw [rightCount] at rightAlike
    exact leftAlike.trans (sequenceAlike.trans rightAlike.symm)

/-- Four items asked for one by one, with a split assigned between them, against
a visit that runs backwards and is left after its first fault for an item at
another index.  Both functions get tired in between. -/
theorem serveAll_independent_of_visit :
    let left : Desk Nat Nat :=
      Desk.start
        { classes := 10
          root := { bytes := [] }
          split := .train
          download := false
          imageTransform := some (Transform.tiring 2)
          labelTransform := some (Transform.tiring 1) }
    let right : Desk Nat Nat :=
      Desk.start
        { left.dataset with
          root := { bytes := [0x2F] }, split := .test, download := true }
    let leftDraws : Draws := fun position => UInt64.ofNat position
    let rightDraws : Draws := fun position => UInt64.ofNat (position - 3)
    let leftRequests : List Request :=
      [.ask .direct 7, .assignSplit .test, .ask .shared 0xFFFFFFFFFFFFFFFF,
        .ask .direct 7, .ask .direct 50000]
    let rightRequests : List Request :=
      [.visit List.reverse, .read 0 5, .ask .shared 0, .read 0 1]
    left.dataset.Alike right.dataset ∧
      (∀ offset, offset < 4 →
        leftDraws (0 + offset) = rightDraws (3 + offset)) ∧
      (left.serveAll leftDraws 0 leftRequests).1.length = 4 ∧
      (right.serveAll rightDraws 3 rightRequests).1.length = 4 ∧
      (left.serveAll leftDraws 0 leftRequests).1.take 4 =
        (right.serveAll rightDraws 3 rightRequests).1.take 4 ∧
      (left.serveAll leftDraws 0 leftRequests).2.dataset.Alike
        (right.serveAll rightDraws 3 rightRequests).2.dataset := by
  intro left right leftDraws rightDraws leftRequests rightRequests
  have alike : left.dataset.Alike right.dataset := ⟨rfl, rfl, rfl⟩
  have sameDraws :
      ∀ offset, offset < 4 →
        leftDraws (0 + offset) = rightDraws (3 + offset) := by
    decide
  have leftLength :
      (left.serveAll leftDraws 0 leftRequests).1.length = 4 := by
    decide +kernel
  have rightLength :
      (right.serveAll rightDraws 3 rightRequests).1.length = 4 := by
    decide +kernel
  obtain ⟨sameAccesses, lastAlike⟩ :=
    serveAll_independent alike leftDraws rightDraws 0 3 4 sameDraws
      leftRequests rightRequests
      (Nat.le_of_eq leftLength.symm) (Nat.le_of_eq rightLength.symm)
  exact
    ⟨alike, sameDraws, leftLength, rightLength, sameAccesses,
      lastAlike leftLength rightLength⟩

end BlankImages
