import BlankImages.Proofs.VisitReading
import BlankImages.Proofs.WorkerHalves

/-!
# Accesses by workers who share a collection

In a complete run, in whatever order the workers move, each of them gets the
accesses that are put together from its own halves, and the halves of all workers
are the consecutive calls of the two functions.  From this it follows what is
seen of functions without memory and of functions that count their calls.
-/

namespace BlankImages

variable {σ τ : Type}

namespace Pool

/-! ## Complete runs -/

section

variable {dataset : Dataset σ τ} {draws : List (List Label)}
  {schedule : List Nat}

theorem start_workers (dataset : Dataset σ τ) (draws : List (List Label))
    (number : Nat) :
    (start dataset draws).workers[number]? =
      draws[number]?.map Worker.start := by
  rw [start, List.getElem?_map]

theorem exists_draws_of_getElem? {number : Nat} {worker : Worker}
    (found :
      ((start dataset draws).run schedule).workers[number]? = some worker) :
    ∃ own, draws[number]? = some own := by
  have within := (List.getElem?_eq_some_iff.mp found).1
  rw [length_workers_run, start, List.length_map] at within
  exact ⟨draws[number], List.getElem?_eq_getElem within⟩

/-- Each worker gets the accesses that are put together from its own draws and
its own halves, and gets all of them. -/
theorem composed_of_isDone (someClasses : dataset.classes ≠ 0)
    (done : ((start dataset draws).run schedule).isDone)
    {number : Nat} {own : List Label} (given : draws[number]? = some own) :
    ∃ worker,
      ((start dataset draws).run schedule).workers[number]? = some worker ∧
      Composed own
        (ofWorker number ((start dataset draws).imageHalves schedule))
        (ofWorker number ((start dataset draws).labelHalves schedule))
        worker.accesses := by
  have found :
      (start dataset draws).workers[number]? = some (Worker.start own) := by
    rw [start_workers, given, Option.map_some]
  obtain ⟨last, lastFound, accounted⟩ :=
    (start dataset draws).accounted_run someClasses found
      (Worker.Accounted.start own) schedule
  have lastDone : last.isDone = true :=
    List.all_eq_true.mp done last (List.mem_of_getElem? lastFound)
  rw [List.nil_append, List.nil_append] at accounted
  exact ⟨last, lastFound, accounted.composed_of_isDone lastDone⟩

theorem composed_of_getElem? (someClasses : dataset.classes ≠ 0)
    (done : ((start dataset draws).run schedule).isDone)
    {number : Nat} {worker : Worker}
    (found :
      ((start dataset draws).run schedule).workers[number]? = some worker) :
    ∃ own, draws[number]? = some own ∧
      Composed own
        (ofWorker number ((start dataset draws).imageHalves schedule))
        (ofWorker number ((start dataset draws).labelHalves schedule))
        worker.accesses := by
  obtain ⟨own, given⟩ := exists_draws_of_getElem? found
  obtain ⟨sameWorker, sameFound, composed⟩ :=
    composed_of_isDone someClasses done given
  rw [found] at sameFound
  cases sameFound
  exact ⟨own, given, composed⟩

theorem lt_of_mem_record_start {β : Type} {see? : Pool σ τ → Nat → Option β}
    (found : ∀ pool number value,
      see? pool number = some value → number < pool.workers.length)
    (dataset : Dataset σ τ) (draws : List (List Label)) (schedule : List Nat) :
    ∀ entry, entry ∈ (start dataset draws).record see? schedule →
      entry.1 < draws.length := by
  have bounded :=
    lt_of_mem_record see? found (start dataset draws) schedule
  rw [start, List.length_map] at bounded
  exact bounded

theorem imageHalves_bounded (dataset : Dataset σ τ)
    (draws : List (List Label)) (schedule : List Nat) :
    ∀ entry, entry ∈ (start dataset draws).imageHalves schedule →
      entry.1 < draws.length :=
  lt_of_mem_record_start (fun _ _ _ seen => (slot_of_imageHalf? seen).1)
    dataset draws schedule

theorem labelHalves_bounded (dataset : Dataset σ τ)
    (draws : List (List Label)) (schedule : List Nat) :
    ∀ entry, entry ∈ (start dataset draws).labelHalves schedule →
      entry.1 < draws.length :=
  lt_of_mem_record_start (fun _ _ _ seen => (slot_of_labelHalf? seen).1)
    dataset draws schedule

theorem length_imageHalves (someClasses : dataset.classes ≠ 0)
    (done : ((start dataset draws).run schedule).isDone) {count : Nat}
    (even : ∀ own, own ∈ draws → own.length = count) :
    ((start dataset draws).imageHalves schedule).length =
      draws.length * count := by
  have partLength :
      ∀ number, number ∈ Finset.range draws.length →
        (ofWorker number
          ((start dataset draws).imageHalves schedule)).length = count := by
    intro number member
    have given := List.getElem?_eq_getElem (Finset.mem_range.mp member)
    obtain ⟨worker, _, composed⟩ :=
      composed_of_isDone someClasses done given
    rw [composed.length_images]
    exact even _ (List.mem_of_getElem? given)
  rw [← sum_length_ofWorker (imageHalves_bounded dataset draws schedule),
    Finset.sum_const_nat partLength, Finset.card_range]

theorem length_labelHalves (someClasses : dataset.classes ≠ 0)
    (done : ((start dataset draws).run schedule).isDone) :
    ((start dataset draws).labelHalves schedule).length =
      (((start dataset draws).imageHalves schedule).map Prod.snd).countP
        Half.returns := by
  have partLength :
      ∀ number, number ∈ Finset.range draws.length →
        (ofWorker number
            ((start dataset draws).labelHalves schedule)).length =
          (ofWorker number
            ((start dataset draws).imageHalves schedule)).countP
              Half.returns := by
    intro number member
    have given := List.getElem?_eq_getElem (Finset.mem_range.mp member)
    obtain ⟨worker, _, composed⟩ :=
      composed_of_isDone someClasses done given
    exact composed.length_labels
  rw [← sum_length_ofWorker (labelHalves_bounded dataset draws schedule),
    Finset.sum_congr rfl partLength,
    sum_countP_ofWorker (imageHalves_bounded dataset draws schedule)]

theorem length_accesses (someClasses : dataset.classes ≠ 0)
    (done : ((start dataset draws).run schedule).isDone) {count : Nat}
    (even : ∀ own, own ∈ draws → own.length = count) :
    ((start dataset draws).run schedule).accesses.length =
      draws.length * count := by
  have workersLength :
      ((start dataset draws).run schedule).workers.length = draws.length := by
    rw [length_workers_run, start, List.length_map]
  have accessCounts :
      ((start dataset draws).run schedule).workers.map
          (fun worker => worker.accesses.length) =
        List.replicate draws.length count := by
    rw [List.eq_replicate_iff, List.length_map]
    refine ⟨workersLength, ?_⟩
    intro length member
    obtain ⟨worker, workerMember, rfl⟩ := List.mem_map.mp member
    obtain ⟨number, found⟩ := List.mem_iff_getElem?.mp workerMember
    obtain ⟨own, given, composed⟩ :=
      composed_of_getElem? someClasses done found
    rw [composed.length_accesses]
    exact even own (List.mem_of_getElem? given)
  rw [accesses, List.length_flatMap, accessCounts, List.sum_replicate_nat]

/-- Where the functions have no memory, each worker gets what it would get from
the collection alone. -/
theorem accesses_of_stateless (someClasses : dataset.classes ≠ 0)
    (done : ((start dataset draws).run schedule).isDone)
    (imageStateless : Transform.Stateless dataset.imageTransform)
    (labelStateless : Transform.Stateless dataset.labelTransform) :
    ((start dataset draws).run schedule).workers.map Worker.accesses =
      draws.map fun own => (dataset.accessAll own).1 := by
  have imagesLater :=
    ((start dataset draws).consecutive_imageHalves schedule).1.later
  have labelsLater :=
    ((start dataset draws).consecutive_labelHalves schedule).1.later
  apply List.ext_getElem?
  intro number
  rw [List.getElem?_map, List.getElem?_map]
  cases given : draws[number]? with
  | none =>
      have absent :
          ((start dataset draws).run schedule).workers[number]? = none := by
        rw [List.getElem?_eq_none_iff] at given ⊢
        rw [length_workers_run, start, List.length_map]
        exact given
      rw [absent]
      rfl
  | some own =>
      obtain ⟨worker, found, composed⟩ :=
        composed_of_isDone someClasses done given
      have accessesShape :=
        composed.eq_map_access someClasses imageStateless labelStateless
          (fun half member =>
            imagesLater half ((ofWorker_sublist number _).mem member))
          (fun half member =>
            labelsLater half ((ofWorker_sublist number _).mem member))
      rw [found, Option.map_some, Option.map_some, accessesShape,
        Dataset.accessAll_of_stateless someClasses imageStateless
          labelStateless]

end

/-! ## Calls that are counted -/

/-- The calls of a record show `amount` consecutive numbers from `first` on, in
the order of time, and no worker ever sees a number that is not higher than the
one before. -/
structure Numbered {ρ α : Type} (count : ρ → Nat)
    (entries : List (Nat × Half ρ α)) (first amount : Nat) : Prop where
  all :
    (entries.map Prod.snd).filterMap (Half.shown? count) =
      List.range' first amount
  rising : ∀ number,
    ((ofWorker number entries).filterMap (Half.shown? count)).Pairwise (· < ·)

theorem numbered_of_consecutive {ρ α : Type} {transform : Transform ρ α}
    {count : ρ → Nat} (counts : transform.Counts count)
    {entries : List (Nat × Half ρ α)}
    (consecutive :
      Half.Consecutive (some transform) (entries.map Prod.snd)) :
    Numbered count entries (count transform.state + 1) entries.length := by
  have all := consecutive.shown counts
  rw [List.length_map] at all
  refine ⟨all, ?_⟩
  intro number
  have part :
      ((ofWorker number entries).filterMap (Half.shown? count)).Sublist
        (List.range' (count transform.state + 1) entries.length) := by
    rw [← all]
    exact (ofWorker_sublist number entries).filterMap _
  exact List.Pairwise.sublist part List.pairwise_lt_range'

end Pool

/-! ## Progress -/

namespace Worker

/-- An upper bound for the steps that a worker still has to make. -/
def stepsLeft (worker : Worker) : Nat :=
  Pool.stepsPerAccess * worker.pending.length +
    match worker.phase with
    | .idle => 0
    | .drawn _ => 2
    | .imaged _ _ _ => 1

theorem stepsLeft_advance (worker : Worker) (dataset : Dataset σ τ) :
    (worker.advance dataset).1.stepsLeft ≤ worker.stepsLeft - 1 := by
  obtain ⟨pending, phase, finished⟩ := worker
  cases phase with
  | idle =>
      cases pending with
      | nil =>
          exact Nat.le_refl 0
      | cons drawn pending =>
          by_cases noClasses : dataset.classes = 0
          · simp only [advance, if_pos noClasses, finish, stepsLeft,
              Pool.stepsPerAccess, List.length_cons]
            omega
          · simp only [advance, if_neg noClasses, stepsLeft,
              Pool.stepsPerAccess, List.length_cons]
            omega
  | drawn drawn =>
      simp only [advance, Dataset.makeImage_eq]
      cases dataset.imageHalf.answer with
      | error fault =>
          simp only [finish, stepsLeft]
          omega
      | ok image =>
          simp only [stepsLeft]
          omega
  | imaged image entered drawn =>
      simp only [advance, Dataset.makeLabel_eq]
      cases (dataset.labelHalf drawn).answer with
      | error fault =>
          exact Nat.le_refl _
      | ok label =>
          exact Nat.le_refl _

theorem isDone_of_stepsLeft {worker : Worker} (none : worker.stepsLeft = 0) :
    worker.isDone = true := by
  obtain ⟨pending, phase, finished⟩ := worker
  cases phase with
  | idle =>
      have nonePending : pending = [] := by
        apply List.eq_nil_of_length_eq_zero
        simp only [stepsLeft, Pool.stepsPerAccess] at none
        omega
      rw [nonePending]
      rfl
  | drawn =>
      simp [stepsLeft] at none
  | imaged =>
      simp [stepsLeft] at none

end Worker

namespace Pool

theorem stepsLeft_run {pool : Pool σ τ} {number : Nat} {worker : Worker}
    (found : pool.workers[number]? = some worker) (schedule : List Nat) :
    ∃ last, (pool.run schedule).workers[number]? = some last ∧
      last.stepsLeft ≤ worker.stepsLeft - schedule.count number := by
  induction schedule generalizing pool worker with
  | nil =>
      exact ⟨worker, found, Nat.le_refl _⟩
  | cons mover rest inductionHypothesis =>
      rw [run_cons]
      by_cases own : mover = number
      · -- The turn uses up a step of the bound, if there is one left.
        subst mover
        have moved := getElem?_step_own found
        obtain ⟨last, lastFound, bound⟩ := inductionHypothesis moved
        have lower := worker.stepsLeft_advance pool.dataset
        refine ⟨last, lastFound, ?_⟩
        rw [List.count_cons_self]
        omega
      · have unmoved := getElem?_step_other own found
        obtain ⟨last, lastFound, bound⟩ := inductionHypothesis unmoved
        refine ⟨last, lastFound, ?_⟩
        rw [List.count_cons_of_ne own]
        exact bound

/-- A run is complete as soon as every worker has had turns enough, whoever else
moved in between. -/
theorem isDone_of_turns (dataset : Dataset σ τ) {draws : List (List Label)}
    {schedule : List Nat}
    (enough : ∀ number own, draws[number]? = some own →
      stepsPerAccess * own.length ≤ schedule.count number) :
    ((start dataset draws).run schedule).isDone = true := by
  rw [isDone, List.all_eq_true]
  intro worker member
  obtain ⟨number, found⟩ := List.mem_iff_getElem?.mp member
  obtain ⟨own, given⟩ := exists_draws_of_getElem? found
  have started : (start dataset draws).workers[number]? =
      some (Worker.start own) := by
    rw [start_workers, given, Option.map_some]
  obtain ⟨last, lastFound, bound⟩ := stepsLeft_run started schedule
  rw [found] at lastFound
  cases lastFound
  have turns := enough number own given
  apply Worker.isDone_of_stepsLeft
  have whole : (Worker.start own).stepsLeft = stepsPerAccess * own.length :=
    rfl
  omega

end Pool

/-- Workers who get turns enough complete their accesses.  However the steps of
the workers are mixed, a complete run gives each worker the accesses that are put
together from its own draws and halves.  Without memory in the functions these
are what the worker gets alone; functions that count their calls count every half
exactly once; and nothing happens to the collection but calls of its functions. -/
theorem shared_accesses_neither_lost_nor_mixed {dataset : Dataset σ τ}
    (someClasses : dataset.classes ≠ 0)
    (draws : List (List Label)) (count : Nat)
    (even : ∀ own, own ∈ draws → own.length = count) :
    let first := Pool.start dataset draws
    (∀ schedule : List Nat,
      (∀ number, number < draws.length →
        Pool.stepsPerAccess * count ≤ schedule.count number) →
      (first.run schedule).isDone = true) ∧
    ∀ schedule : List Nat, (first.run schedule).isDone = true →
      let last := first.run schedule
      let images := first.imageHalves schedule
      let labels := first.labelHalves schedule
      (last.accesses.length = draws.length * count ∧
        last.workers.length = draws.length ∧
        ∀ number worker, last.workers[number]? = some worker →
          ∃ own, draws[number]? = some own ∧
            Composed own (Pool.ofWorker number images)
              (Pool.ofWorker number labels) worker.accesses) ∧
      (Transform.Stateless dataset.imageTransform →
        Transform.Stateless dataset.labelTransform →
        last.workers.map Worker.accesses =
          draws.map fun own => (dataset.accessAll own).1) ∧
      (∀ function imageCount, dataset.imageTransform = some function →
        function.Counts imageCount →
        Pool.Numbered imageCount images (imageCount function.state + 1)
          (draws.length * count)) ∧
      (∀ function labelCount, dataset.labelTransform = some function →
        function.Counts labelCount →
        Pool.Numbered labelCount labels (labelCount function.state + 1)
          ((images.map Prod.snd).countP Half.returns)) ∧
      (last.dataset =
          { dataset with
            imageTransform :=
              Transform.afterCalls dataset.imageTransform
                ((images.map Prod.snd).flatMap Half.calls)
            labelTransform :=
              Transform.afterCalls dataset.labelTransform
                ((labels.map Prod.snd).flatMap Half.calls) } ∧
        last.dataset.imageTransform.map Transform.respond =
          dataset.imageTransform.map Transform.respond ∧
        last.dataset.labelTransform.map Transform.respond =
          dataset.labelTransform.map Transform.respond) := by
  intro first
  refine ⟨?_, ?_⟩
  · intro schedule enough
    apply Pool.isDone_of_turns dataset
    intro number own given
    rw [even own (List.mem_of_getElem? given)]
    exact enough number (List.getElem?_eq_some_iff.mp given).1
  · intro schedule done last images labels
    have imagesConsecutive := (first.consecutive_imageHalves schedule).1
    have labelsConsecutive := (first.consecutive_labelHalves schedule).1
    have imagesLength : images.length = draws.length * count :=
      Pool.length_imageHalves someClasses done even
    have labelsLength :
        labels.length = (images.map Prod.snd).countP Half.returns :=
      Pool.length_labelHalves someClasses done
    have lastDataset := first.run_dataset schedule
    refine ⟨⟨?_, ?_, ?_⟩, ?_, ?_, ?_, lastDataset, ?_, ?_⟩
    · exact Pool.length_accesses someClasses done even
    · exact (first.length_workers_run schedule).trans (List.length_map _)
    · intro number worker found
      exact Pool.composed_of_getElem? someClasses done found
    · intro imageStateless labelStateless
      exact
        Pool.accesses_of_stateless someClasses done imageStateless
          labelStateless
    · intro function imageCount held counts
      have fromFunction :
          Half.Consecutive (some function) (images.map Prod.snd) := by
        rw [← held]
        exact imagesConsecutive
      rw [← imagesLength]
      exact Pool.numbered_of_consecutive counts fromFunction
    · intro function labelCount held counts
      have fromFunction :
          Half.Consecutive (some function) (labels.map Prod.snd) := by
        rw [← held]
        exact labelsConsecutive
      rw [← labelsLength]
      exact Pool.numbered_of_consecutive counts fromFunction
    · rw [lastDataset]
      exact Transform.respond_afterCalls dataset.imageTransform _
    · rw [lastDataset]
      exact Transform.respond_afterCalls dataset.labelTransform _

/-- Two workers with two accesses each.  Of the functions that count, the one on
images faults at its fourth call, so the one on labels is called three times;
of the functions without memory, the one on labels refuses two of the draws. -/
theorem shared_accesses_of_two_workers :
    let counting : Dataset Nat Nat :=
      { classes := 10
        root := { bytes := [] }
        split := .test
        download := false
        imageTransform :=
          some { (Transform.tiring 8 : Transform Nat Image) with state := 5 }
        labelTransform :=
          some { (Transform.tiring 12 : Transform Nat Label) with state := 10 } }
    let forgetful : Dataset Unit Unit :=
      { classes := 10
        root := { bytes := [] }
        split := .train
        download := true
        imageTransform := some (Transform.pure .ok)
        labelTransform :=
          some
            (Transform.pure fun label =>
              if label < 3 then .ok (label + 1) else .error (.raised "high")) }
    let draws : List (List Label) := [[1, 7], [9, 2]]
    let schedule := [0, 1, 1, 0, 0, 1, 1, 0, 1, 1, 0, 0]
    (counting.classes ≠ 0 ∧ forgetful.classes ≠ 0 ∧
      (∀ own, own ∈ draws → own.length = 2) ∧
      (∀ number, number < draws.length →
        Pool.stepsPerAccess * 2 ≤ schedule.count number)) ∧
    (((Pool.start counting draws).run schedule).isDone = true ∧
      ((Pool.start counting draws).imageHalves schedule).map
          (fun entry => (entry.1, entry.2.shown? id)) =
        [(1, some 6), (0, some 7), (1, some 8), (0, some 9)] ∧
      Pool.Numbered id ((Pool.start counting draws).imageHalves schedule) 6 4 ∧
      Pool.Numbered id ((Pool.start counting draws).labelHalves schedule) 11 3) ∧
    (((Pool.start forgetful draws).run schedule).isDone = true ∧
      ((Pool.start forgetful draws).run schedule).workers.map
          Worker.accesses =
        draws.map fun own => (forgetful.accessAll own).1) := by
  intro counting forgetful draws schedule
  have countingClasses : counting.classes ≠ 0 := by
    decide
  have forgetfulClasses : forgetful.classes ≠ 0 := by
    decide
  have even : ∀ own, own ∈ draws → own.length = 2 := by
    decide
  have enough :
      ∀ number, number < draws.length →
        Pool.stepsPerAccess * 2 ≤ schedule.count number := by
    decide
  have ofCounting :=
    shared_accesses_neither_lost_nor_mixed countingClasses draws 2 even
  have ofForgetful :=
    shared_accesses_neither_lost_nor_mixed forgetfulClasses draws 2 even
  have countingDone := ofCounting.1 schedule enough
  have forgetfulDone := ofForgetful.1 schedule enough
  obtain ⟨_, _, imagesNumbered, labelsNumbered, _⟩ :=
    ofCounting.2 schedule countingDone
  obtain ⟨_, alone, _, _, _⟩ := ofForgetful.2 schedule forgetfulDone
  have labelCalls :
      (((Pool.start counting draws).imageHalves schedule).map
        Prod.snd).countP Half.returns = 3 := by
    decide +kernel
  have labelNumbers :=
    labelsNumbered _ id rfl (Transform.counts_of_respond fun _ _ => rfl)
  rw [labelCalls] at labelNumbers
  refine
    ⟨⟨countingClasses, forgetfulClasses, even, enough⟩,
      ⟨countingDone, by decide +kernel, ?_, labelNumbers⟩, forgetfulDone, ?_⟩
  · exact imagesNumbered _ id rfl (Transform.counts_of_respond fun _ _ => rfl)
  · exact alone (Transform.stateless_pure _) (Transform.stateless_pure _)

end BlankImages
