import Mathlib.Algebra.BigOperators.Group.Finset.Basic
import BlankImages.Dataset.Concurrent
import BlankImages.Proofs.SampleHalves

/-!
# What workers make

A step of a worker makes at most one half of a sample.  The halves that are made
in a run are recorded with the numbers of the workers.  In the record of all
workers each half finds its slot as the half before has left it; the part of one
worker accounts for the accesses of that worker.
-/

namespace BlankImages

variable {σ τ : Type}

/-! ## One worker -/

namespace Worker

def imageHalf? (worker : Worker) (dataset : Dataset σ τ) :
    Option (Half σ Image) :=
  match worker.phase with
  | .drawn _ => some dataset.imageHalf
  | _ => none

def labelHalf? (worker : Worker) (dataset : Dataset σ τ) :
    Option (Half τ Label) :=
  match worker.phase with
  | .imaged _ _ drawn => some (dataset.labelHalf drawn)
  | _ => none

/-- What a step does to the collection is what the half does that it makes. -/
theorem advance_dataset (worker : Worker) (dataset : Dataset σ τ) :
    (worker.advance dataset).2 =
      { dataset with
        imageTransform :=
          ((worker.imageHalf? dataset).map Half.after).getD
            dataset.imageTransform
        labelTransform :=
          ((worker.labelHalf? dataset).map Half.after).getD
            dataset.labelTransform } := by
  obtain ⟨pending, phase, finished⟩ := worker
  cases phase with
  | idle =>
      cases pending with
      | nil =>
          rfl
      | cons drawn pending =>
          by_cases noClasses : dataset.classes = 0
          · simp only [advance, if_pos noClasses]
            rfl
          · simp only [advance, if_neg noClasses]
            rfl
  | drawn drawn =>
      simp only [advance, Dataset.makeImage_eq]
      cases dataset.imageHalf.answer with
      | error fault =>
          rfl
      | ok image =>
          rfl
  | imaged image entered drawn =>
      simp only [advance, Dataset.makeLabel_eq]
      cases (dataset.labelHalf drawn).answer with
      | error fault =>
          rfl
      | ok label =>
          rfl

/-- The halves that a worker has made account for the accesses that it has
finished and for the phase of its present access. -/
inductive Accounted (draws : List Label) :
    List (Half σ Image) → List (Half τ Label) → Worker → Prop
  | idle {done pending : List Label} {images : List (Half σ Image)}
      {labels : List (Half τ Label)} {finished : List Access}
      (whole : draws = done ++ pending)
      (composed : Composed done images labels finished.reverse) :
      Accounted draws images labels
        { pending, phase := .idle, finished }
  | drawn {done pending : List Label} {images : List (Half σ Image)}
      {labels : List (Half τ Label)} {finished : List Access} {drawn : Label}
      (whole : draws = done ++ drawn :: pending)
      (composed : Composed done images labels finished.reverse) :
      Accounted draws images labels
        { pending, phase := .drawn drawn, finished }
  | imaged {done pending : List Label} {images : List (Half σ Image)}
      {labels : List (Half τ Label)} {finished : List Access} {drawn : Label}
      {image : Half σ Image} {made : Image}
      (whole : draws = done ++ drawn :: pending)
      (composed : Composed done images labels finished.reverse)
      (imageGiven : image.given = Image.cifar)
      (returned : image.answer = .ok made) :
      Accounted draws (images ++ [image]) labels
        { pending
          phase := .imaged made (image.calls.map .image) drawn
          finished }

namespace Accounted

variable {draws : List Label} {images : List (Half σ Image)}
  {labels : List (Half τ Label)} {worker : Worker}

theorem start (draws : List Label) :
    Accounted draws ([] : List (Half σ Image)) ([] : List (Half τ Label))
      (Worker.start draws) :=
  idle rfl Composed.nil

theorem advance {dataset : Dataset σ τ} (someClasses : dataset.classes ≠ 0)
    (accounted : Accounted draws images labels worker) :
    Accounted draws
      (images ++ (worker.imageHalf? dataset).toList)
      (labels ++ (worker.labelHalf? dataset).toList)
      (worker.advance dataset).1 := by
  cases accounted with
  | @idle done pending _ _ finished whole composed =>
      simp only [imageHalf?, labelHalf?, Option.toList_none, List.append_nil]
      cases pending with
      | nil =>
          exact idle whole composed
      | cons drawn pending =>
          simp only [Worker.advance, if_neg someClasses]
          exact Accounted.drawn whole composed
  | @drawn done pending _ _ finished drawn whole composed =>
      simp only [imageHalf?, labelHalf?, Option.toList_none, List.append_nil,
        Option.toList_some, Worker.advance, Dataset.makeImage_eq,
        Dataset.imageEntries_eq]
      cases answered : dataset.imageHalf.answer with
      | error fault =>
          have onward :=
            composed.append
              (Composed.imageFault drawn rfl answered Composed.nil)
          have wholeOnward : draws = (done ++ [drawn]) ++ pending := by
            rw [whole, List.append_assoc, List.singleton_append]
          refine idle wholeOnward ?_
          rw [List.reverse_cons]
          rw [List.append_nil] at onward
          exact onward
      | ok made =>
          exact imaged whole composed rfl answered
  | @imaged done pending images _ finished drawn image made whole composed
      imageGiven returned =>
      simp only [imageHalf?, labelHalf?, Option.toList_none, List.append_nil,
        Option.toList_some, Worker.advance, Dataset.makeLabel_eq,
        Dataset.labelEntries_eq]
      have labelGiven : (dataset.labelHalf drawn).given = drawn := rfl
      have onward :=
        composed.append
          (Composed.both drawn imageGiven returned labelGiven Composed.nil)
      have wholeOnward : draws = (done ++ [drawn]) ++ pending := by
        rw [whole, List.append_assoc, List.singleton_append]
      cases answered : (dataset.labelHalf drawn).answer with
      | error fault =>
          rw [answered] at onward
          refine idle wholeOnward ?_
          rw [List.reverse_cons]
          exact onward
      | ok label =>
          rw [answered] at onward
          refine idle wholeOnward ?_
          rw [List.reverse_cons]
          exact onward

/-- A worker that is done has made an access for each of its draws. -/
theorem composed_of_isDone (accounted : Accounted draws images labels worker)
    (done : worker.isDone = true) :
    Composed draws images labels worker.accesses := by
  cases accounted with
  | @idle done pending _ _ finished whole composed =>
      have nonePending : pending = [] := by
        simpa [isDone] using done
      rw [nonePending, List.append_nil] at whole
      rw [whole]
      exact composed
  | drawn =>
      simp [isDone] at done
  | imaged =>
      simp [isDone] at done

end Accounted

end Worker

/-! ## The record of a run -/

namespace Pool

/-- What `see?` sees at the steps of a run, each time with the number of the
worker that moves. -/
def record {β : Type} (see? : Pool σ τ → Nat → Option β) (pool : Pool σ τ) :
    List Nat → List (Nat × β)
  | [] => []
  | number :: rest =>
      (see? pool number).toList.map (Prod.mk number) ++
        (pool.step number).record see? rest

def imageHalf? (pool : Pool σ τ) (number : Nat) : Option (Half σ Image) :=
  pool.workers[number]?.bind fun worker => worker.imageHalf? pool.dataset

def labelHalf? (pool : Pool σ τ) (number : Nat) : Option (Half τ Label) :=
  pool.workers[number]?.bind fun worker => worker.labelHalf? pool.dataset

def imageHalves (pool : Pool σ τ) (schedule : List Nat) :
    List (Nat × Half σ Image) :=
  pool.record imageHalf? schedule

def labelHalves (pool : Pool σ τ) (schedule : List Nat) :
    List (Nat × Half τ Label) :=
  pool.record labelHalf? schedule

def ofWorker {β : Type} (number : Nat) (entries : List (Nat × β)) : List β :=
  (entries.filter fun entry => entry.1 == number).map Prod.snd

section

variable {β : Type}

theorem ofWorker_append (number : Nat) (first second : List (Nat × β)) :
    ofWorker number (first ++ second) =
      ofWorker number first ++ ofWorker number second := by
  simp only [ofWorker, List.filter_append, List.map_append]

theorem ofWorker_own (number : Nat) (values : List β) :
    ofWorker number (values.map (Prod.mk number)) = values := by
  simp [ofWorker, List.filter_map, Function.comp_def]

theorem ofWorker_other {number other : Nat} (different : other ≠ number)
    (values : List β) :
    ofWorker number (values.map (Prod.mk other)) = [] := by
  simp [ofWorker, List.filter_map, Function.comp_def, different]

theorem ofWorker_sublist (number : Nat) (entries : List (Nat × β)) :
    (ofWorker number entries).Sublist (entries.map Prod.snd) :=
  List.filter_sublist.map Prod.snd

/-- A record is made up of the parts that belong to the workers. -/
theorem sum_length_ofWorker {entries : List (Nat × β)} {count : Nat}
    (bounded : ∀ entry, entry ∈ entries → entry.1 < count) :
    ∑ number ∈ Finset.range count, (ofWorker number entries).length =
      entries.length := by
  have partLength :
      ∀ number, (ofWorker number entries).length =
        (entries.map Prod.fst : Multiset Nat).count number := by
    intro number
    rw [ofWorker, List.length_map, Multiset.coe_count, List.count,
      List.countP_map, List.countP_eq_length_filter]
    rfl
  have allBelow :
      ∀ number, number ∈ (entries.map Prod.fst : Multiset Nat) →
        number ∈ Finset.range count := by
    intro number member
    obtain ⟨entry, entryMember, rfl⟩ :=
      List.mem_map.mp (Multiset.mem_coe.mp member)
    exact Finset.mem_range.mpr (bounded entry entryMember)
  rw [Finset.sum_congr rfl fun number _ => partLength number,
    Multiset.sum_count_eq_card allBelow, Multiset.coe_card, List.length_map]

theorem sum_countP_ofWorker {entries : List (Nat × β)} {count : Nat}
    (bounded : ∀ entry, entry ∈ entries → entry.1 < count)
    (counted : β → Bool) :
    ∑ number ∈ Finset.range count, (ofWorker number entries).countP counted =
      (entries.map Prod.snd).countP counted := by
  have countedPart :
      ∀ number, (ofWorker number entries).countP counted =
        (ofWorker number
          (entries.filter fun entry => counted entry.2)).length := by
    intro number
    rw [ofWorker, ofWorker, List.countP_map, List.length_map,
      List.countP_eq_length_filter, List.filter_filter, List.filter_filter]
    simp only [Function.comp_apply, Bool.and_comm]
  have countedBounded :
      ∀ entry, entry ∈ entries.filter (fun entry => counted entry.2) →
        entry.1 < count := by
    intro entry member
    exact bounded entry (List.mem_of_mem_filter member)
  rw [Finset.sum_congr rfl fun number _ => countedPart number,
    sum_length_ofWorker countedBounded, List.countP_map,
    List.countP_eq_length_filter]
  rfl

end

/-! ## Steps -/

theorem step_of_none {pool : Pool σ τ} {number : Nat}
    (absent : pool.workers[number]? = none) : pool.step number = pool := by
  simp only [step, absent]

theorem step_of_some {pool : Pool σ τ} {number : Nat} {worker : Worker}
    (found : pool.workers[number]? = some worker) :
    pool.step number =
      { dataset := (worker.advance pool.dataset).2
        workers := pool.workers.set number (worker.advance pool.dataset).1 } := by
  simp only [step, found]

theorem getElem?_step_own {pool : Pool σ τ} {number : Nat} {worker : Worker}
    (found : pool.workers[number]? = some worker) :
    (pool.step number).workers[number]? =
      some (worker.advance pool.dataset).1 := by
  rw [step_of_some found]
  exact List.getElem?_set_self (List.getElem?_eq_some_iff.mp found).1

theorem getElem?_step_other {pool : Pool σ τ} {mover number : Nat}
    {worker : Worker} (other : mover ≠ number)
    (found : pool.workers[number]? = some worker) :
    (pool.step mover).workers[number]? = some worker := by
  cases moverFound : pool.workers[mover]? with
  | none =>
      rw [step_of_none moverFound]
      exact found
  | some moverWorker =>
      rw [step_of_some moverFound, List.getElem?_set_ne other]
      exact found

@[simp]
theorem length_workers_step (pool : Pool σ τ) (number : Nat) :
    (pool.step number).workers.length = pool.workers.length := by
  cases found : pool.workers[number]? with
  | none =>
      rw [step_of_none found]
  | some worker =>
      rw [step_of_some found, List.length_set]

theorem step_dataset (pool : Pool σ τ) (number : Nat) :
    (pool.step number).dataset =
      { pool.dataset with
        imageTransform :=
          ((pool.imageHalf? number).map Half.after).getD
            pool.dataset.imageTransform
        labelTransform :=
          ((pool.labelHalf? number).map Half.after).getD
            pool.dataset.labelTransform } := by
  unfold imageHalf? labelHalf?
  cases found : pool.workers[number]? with
  | none =>
      rw [step_of_none found]
      rfl
  | some worker =>
      rw [step_of_some found]
      exact worker.advance_dataset pool.dataset

theorem slot_of_imageHalf? {pool : Pool σ τ} {number : Nat}
    {half : Half σ Image} (seen : pool.imageHalf? number = some half) :
    number < pool.workers.length ∧
      half.slot = pool.dataset.imageTransform := by
  obtain ⟨worker, found, made⟩ := Option.bind_eq_some_iff.mp seen
  refine ⟨(List.getElem?_eq_some_iff.mp found).1, ?_⟩
  unfold Worker.imageHalf? at made
  split at made
  · cases made
    rfl
  · cases made

theorem slot_of_labelHalf? {pool : Pool σ τ} {number : Nat}
    {half : Half τ Label} (seen : pool.labelHalf? number = some half) :
    number < pool.workers.length ∧
      half.slot = pool.dataset.labelTransform := by
  obtain ⟨worker, found, made⟩ := Option.bind_eq_some_iff.mp seen
  refine ⟨(List.getElem?_eq_some_iff.mp found).1, ?_⟩
  unfold Worker.labelHalf? at made
  split at made
  · cases made
    rfl
  · cases made

/-! ## Runs -/

theorem run_cons (pool : Pool σ τ) (number : Nat) (rest : List Nat) :
    pool.run (number :: rest) = (pool.step number).run rest :=
  rfl

theorem imageHalves_cons (pool : Pool σ τ) (number : Nat) (rest : List Nat) :
    pool.imageHalves (number :: rest) =
      (pool.imageHalf? number).toList.map (Prod.mk number) ++
        (pool.step number).imageHalves rest :=
  rfl

theorem labelHalves_cons (pool : Pool σ τ) (number : Nat) (rest : List Nat) :
    pool.labelHalves (number :: rest) =
      (pool.labelHalf? number).toList.map (Prod.mk number) ++
        (pool.step number).labelHalves rest :=
  rfl

@[simp]
theorem length_workers_run (pool : Pool σ τ) (schedule : List Nat) :
    (pool.run schedule).workers.length = pool.workers.length := by
  induction schedule generalizing pool with
  | nil =>
      rfl
  | cons number rest inductionHypothesis =>
      rw [run_cons, inductionHypothesis, length_workers_step]

/-- One kind of half in a run: each finds the slot as the one before has left
it, and the last leaves it as the run does. -/
theorem consecutive_record {ρ α : Type}
    (see? : Pool σ τ → Nat → Option (Half ρ α))
    (slot : Pool σ τ → Option (Transform ρ α))
    (found : ∀ pool number half,
      see? pool number = some half → half.slot = slot pool)
    (left : ∀ pool number,
      slot (pool.step number) =
        ((see? pool number).map Half.after).getD (slot pool))
    (pool : Pool σ τ) (schedule : List Nat) :
    Half.Consecutive (slot pool) ((pool.record see? schedule).map Prod.snd) ∧
      slot (pool.run schedule) =
        Transform.afterCalls (slot pool)
          (((pool.record see? schedule).map Prod.snd).flatMap Half.calls) := by
  induction schedule generalizing pool with
  | nil =>
      exact ⟨trivial, (Transform.afterCalls_nil (slot pool)).symm⟩
  | cons number rest inductionHypothesis =>
      obtain ⟨restConsecutive, restLeft⟩ :=
        inductionHypothesis (pool.step number)
      have leftHere := left pool number
      rw [run_cons, record]
      cases seen : see? pool number with
      | none =>
          -- The step makes no half of this kind, so the slot is as it was.
          rw [seen] at leftHere
          rw [leftHere] at restConsecutive restLeft
          exact ⟨restConsecutive, restLeft⟩
      | some half =>
          have foundHere := found pool number half seen
          rw [seen] at leftHere
          rw [leftHere] at restConsecutive restLeft
          refine ⟨⟨foundHere, restConsecutive⟩, ?_⟩
          rw [restLeft]
          simp only [Option.map_some, Option.getD_some, Option.toList_some,
            List.map_cons, List.map_nil, List.singleton_append,
            List.flatMap_cons]
          rw [Transform.afterCalls_append, ← foundHere, half.after_eq]

theorem consecutive_imageHalves (pool : Pool σ τ) (schedule : List Nat) :
    let halves := (pool.imageHalves schedule).map Prod.snd
    Half.Consecutive pool.dataset.imageTransform halves ∧
      (pool.run schedule).dataset.imageTransform =
        Transform.afterCalls pool.dataset.imageTransform
          (halves.flatMap Half.calls) := by
  refine
    consecutive_record imageHalf? (fun pool => pool.dataset.imageTransform)
      ?_ ?_ pool schedule
  · intro pool number half seen
    exact (slot_of_imageHalf? seen).2
  · intro pool number
    rw [step_dataset]

theorem consecutive_labelHalves (pool : Pool σ τ) (schedule : List Nat) :
    let halves := (pool.labelHalves schedule).map Prod.snd
    Half.Consecutive pool.dataset.labelTransform halves ∧
      (pool.run schedule).dataset.labelTransform =
        Transform.afterCalls pool.dataset.labelTransform
          (halves.flatMap Half.calls) := by
  refine
    consecutive_record labelHalf? (fun pool => pool.dataset.labelTransform)
      ?_ ?_ pool schedule
  · intro pool number half seen
    exact (slot_of_labelHalf? seen).2
  · intro pool number
    rw [step_dataset]

theorem run_dataset (pool : Pool σ τ) (schedule : List Nat) :
    (pool.run schedule).dataset =
      { pool.dataset with
        imageTransform :=
          Transform.afterCalls pool.dataset.imageTransform
            (((pool.imageHalves schedule).map Prod.snd).flatMap Half.calls)
        labelTransform :=
          Transform.afterCalls pool.dataset.labelTransform
            (((pool.labelHalves schedule).map Prod.snd).flatMap
              Half.calls) } := by
  have imagesLeft := (pool.consecutive_imageHalves schedule).2
  have labelsLeft := (pool.consecutive_labelHalves schedule).2
  have othersKept :
      (pool.run schedule).dataset =
        { pool.dataset with
          imageTransform := (pool.run schedule).dataset.imageTransform
          labelTransform := (pool.run schedule).dataset.labelTransform } := by
    clear imagesLeft labelsLeft
    induction schedule generalizing pool with
    | nil =>
        rfl
    | cons number rest inductionHypothesis =>
        rw [run_cons, inductionHypothesis, step_dataset]
  rw [othersKept, imagesLeft, labelsLeft]

theorem lt_of_mem_record {β : Type} (see? : Pool σ τ → Nat → Option β)
    (found : ∀ pool number value,
      see? pool number = some value → number < pool.workers.length)
    (pool : Pool σ τ) (schedule : List Nat) :
    ∀ entry, entry ∈ pool.record see? schedule →
      entry.1 < pool.workers.length := by
  induction schedule generalizing pool with
  | nil =>
      intro entry member
      cases member
  | cons number rest inductionHypothesis =>
      intro entry member
      rw [record] at member
      rcases List.mem_append.mp member with atFront | inRest
      · obtain ⟨value, seen, rfl⟩ := List.mem_map.mp atFront
        exact found pool number value (Option.mem_toList.mp seen)
      · have below := inductionHypothesis (pool.step number) entry inRest
        rw [length_workers_step] at below
        exact below

/-- The halves that a worker makes in a run account for what it does. -/
theorem accounted_run (pool : Pool σ τ) {number : Nat} {worker : Worker}
    {draws : List Label} {images : List (Half σ Image)}
    {labels : List (Half τ Label)}
    (someClasses : pool.dataset.classes ≠ 0)
    (found : pool.workers[number]? = some worker)
    (accounted : worker.Accounted draws images labels)
    (schedule : List Nat) :
    ∃ last, (pool.run schedule).workers[number]? = some last ∧
      last.Accounted draws
        (images ++ ofWorker number (pool.imageHalves schedule))
        (labels ++ ofWorker number (pool.labelHalves schedule)) := by
  induction schedule generalizing pool worker images labels with
  | nil =>
      refine ⟨worker, found, ?_⟩
      simp only [imageHalves, labelHalves, record, ofWorker, List.filter_nil,
        List.map_nil, List.append_nil]
      exact accounted
  | cons mover rest inductionHypothesis =>
      have stillClasses : (pool.step mover).dataset.classes ≠ 0 := by
        rw [step_dataset]
        exact someClasses
      rw [run_cons, imageHalves_cons, labelHalves_cons, ofWorker_append,
        ofWorker_append, ← List.append_assoc, ← List.append_assoc]
      by_cases own : mover = number
      · subst mover
        have imageSeen :
            pool.imageHalf? number = worker.imageHalf? pool.dataset := by
          rw [imageHalf?, found, Option.bind_some]
        have labelSeen :
            pool.labelHalf? number = worker.labelHalf? pool.dataset := by
          rw [labelHalf?, found, Option.bind_some]
        rw [ofWorker_own, ofWorker_own, imageSeen, labelSeen]
        exact
          inductionHypothesis (pool.step number) stillClasses
            (getElem?_step_own found)
            (accounted.advance someClasses)
      · -- What another worker makes is not in this worker's part of the record.
        rw [ofWorker_other own, ofWorker_other own, List.append_nil,
          List.append_nil]
        exact
          inductionHypothesis (pool.step mover) stillClasses
            (getElem?_step_other own found) accounted

end Pool

end BlankImages
