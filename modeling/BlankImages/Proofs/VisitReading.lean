import BlankImages.Dataset.Iteration
import BlankImages.Draws
import BlankImages.Proofs.AccessSequence

/-!
# Reading from a visit

Reading at most so many items of a visit is compared with asking for the items
one by one at the indices of the visit.  The two agree up to the first fault,
where a reading ends: what has not been read has not been accessed.
-/

namespace BlankImages

/-! ## Up to the first fault -/

namespace Access

/-- How many accesses there are up to the first fault, the faulting one
included. -/
def upToFault : List Access → Nat
  | [] => 0
  | access :: rest =>
      match access.outcome with
      | .error _ => 1
      | .ok _ => upToFault rest + 1

/-- What a caller gets out of accesses: every sample, or the first fault. -/
def collect : List Access → Except Fault (List Sample)
  | [] => .ok []
  | access :: rest =>
      match access.outcome with
      | .error fault => .error fault
      | .ok sample => (collect rest).map fun samples => sample :: samples

def Faultless (accesses : List Access) : Prop :=
  ∀ access, access ∈ accesses → access.fault? = none

structure FirstFault (accesses : List Access) (number : Nat)
    (fault : Fault) : Prop where
  before : Faultless (accesses.take number)
  here :
    ∃ access, accesses[number]? = some access ∧
      access.outcome = .error fault

theorem faultless_cons {access : Access} {rest : List Access} :
    Faultless (access :: rest) ↔
      (∃ sample, access.outcome = .ok sample) ∧ Faultless rest := by
  have returned_iff :
      access.fault? = none ↔ ∃ sample, access.outcome = .ok sample := by
    unfold fault?
    cases access.outcome with
    | error fault =>
        simp
    | ok sample =>
        simp
  simp only [Faultless, List.forall_mem_cons, returned_iff]

theorem FirstFault.zero_iff {access : Access} {rest : List Access}
    {fault : Fault} :
    FirstFault (access :: rest) 0 fault ↔ access.outcome = .error fault := by
  constructor
  · intro first
    obtain ⟨found, atFront, faulted⟩ := first.here
    cases atFront
    exact faulted
  · intro faulted
    exact ⟨by simp [Faultless], access, rfl, faulted⟩

theorem FirstFault.succ_iff {access : Access} {rest : List Access}
    {number : Nat} {fault : Fault} :
    FirstFault (access :: rest) (number + 1) fault ↔
      (∃ sample, access.outcome = .ok sample) ∧
        FirstFault rest number fault := by
  constructor
  · rintro ⟨before, here⟩
    rw [List.take_succ_cons, faultless_cons] at before
    rw [List.getElem?_cons_succ] at here
    exact ⟨before.1, before.2, here⟩
  · rintro ⟨returned, before, here⟩
    refine ⟨?_, ?_⟩
    · rw [List.take_succ_cons, faultless_cons]
      exact ⟨returned, before⟩
    · rw [List.getElem?_cons_succ]
      exact here

theorem upToFault_le (accesses : List Access) :
    upToFault accesses ≤ accesses.length := by
  induction accesses with
  | nil =>
      exact Nat.le_refl 0
  | cons access rest inductionHypothesis =>
      unfold upToFault
      split
      · exact Nat.succ_le_succ (Nat.zero_le rest.length)
      · exact Nat.succ_le_succ inductionHypothesis

theorem Faultless.upToFault_eq {accesses : List Access}
    (faultless : Faultless accesses) :
    upToFault accesses = accesses.length := by
  induction accesses with
  | nil =>
      rfl
  | cons access rest inductionHypothesis =>
      obtain ⟨⟨sample, returned⟩, restFaultless⟩ :=
        faultless_cons.mp faultless
      simp only [upToFault, returned, inductionHypothesis restFaultless,
        List.length_cons]

theorem FirstFault.upToFault_eq {accesses : List Access} {number : Nat}
    {fault : Fault} (first : FirstFault accesses number fault) :
    upToFault accesses = number + 1 := by
  induction accesses generalizing number with
  | nil =>
      obtain ⟨access, found, _⟩ := first.here
      cases found
  | cons access rest inductionHypothesis =>
      cases number with
      | zero =>
          have faulted := FirstFault.zero_iff.mp first
          simp only [upToFault, faulted]
      | succ number =>
          obtain ⟨⟨sample, returned⟩, restFirst⟩ :=
            FirstFault.succ_iff.mp first
          simp only [upToFault, returned, inductionHypothesis restFirst]

theorem Faultless.collect_eq {accesses : List Access}
    (faultless : Faultless accesses) :
    ∃ samples, collect accesses = .ok samples ∧
      samples.length = accesses.length := by
  induction accesses with
  | nil =>
      exact ⟨[], rfl, rfl⟩
  | cons access rest inductionHypothesis =>
      obtain ⟨⟨sample, returned⟩, restFaultless⟩ :=
        faultless_cons.mp faultless
      obtain ⟨samples, collected, sameLength⟩ :=
        inductionHypothesis restFaultless
      refine ⟨sample :: samples, ?_, ?_⟩
      · simp only [collect, returned, collected]
        rfl
      · rw [List.length_cons, List.length_cons, sameLength]

theorem FirstFault.collect_eq {accesses : List Access} {number : Nat}
    {fault : Fault} (first : FirstFault accesses number fault) :
    collect accesses = .error fault := by
  induction accesses generalizing number with
  | nil =>
      obtain ⟨access, found, _⟩ := first.here
      cases found
  | cons access rest inductionHypothesis =>
      cases number with
      | zero =>
          have faulted := FirstFault.zero_iff.mp first
          simp only [collect, faulted]
      | succ number =>
          obtain ⟨⟨sample, returned⟩, restFirst⟩ :=
            FirstFault.succ_iff.mp first
          simp only [collect, returned, inductionHypothesis restFirst]
          rfl

/-- Accesses that are cut off behind the first fault are collected alike. -/
theorem collect_take_upToFault (accesses : List Access) :
    collect (accesses.take (upToFault accesses)) = collect accesses := by
  induction accesses with
  | nil =>
      rfl
  | cons access rest inductionHypothesis =>
      cases outcome : access.outcome with
      | error fault =>
          simp only [upToFault, outcome, collect, List.take_succ_cons]
      | ok sample =>
          simp only [upToFault, outcome, collect, List.take_succ_cons,
            inductionHypothesis]

end Access

variable {σ τ : Type}

/-! ## Items at indices -/

namespace Dataset

def itemsAt (dataset : Dataset σ τ) :
    List (Word × Label) → List Access × Dataset σ τ
  | [] => ([], dataset)
  | (index, drawn) :: rest =>
      let (access, after) := dataset.itemAt index drawn
      let (accesses, last) := after.itemsAt rest
      (access :: accesses, last)

theorem itemsAt_cons (dataset : Dataset σ τ) (index : Word) (drawn : Label)
    (rest : List (Word × Label)) :
    dataset.itemsAt ((index, drawn) :: rest) =
      ((dataset.itemAt index drawn).1 ::
          ((dataset.itemAt index drawn).2.itemsAt rest).1,
        ((dataset.itemAt index drawn).2.itemsAt rest).2) :=
  rfl

/-- The indices have no part in the items. -/
theorem itemsAt_eq_accessAll (dataset : Dataset σ τ)
    (asked : List (Word × Label)) :
    dataset.itemsAt asked = dataset.accessAll (asked.map Prod.snd) := by
  induction asked generalizing dataset with
  | nil =>
      rfl
  | cons first rest inductionHypothesis =>
      obtain ⟨index, drawn⟩ := first
      rw [itemsAt_cons, List.map_cons, accessAll_cons,
        inductionHypothesis]
      rfl

@[simp]
theorem length_itemsAt (dataset : Dataset σ τ)
    (asked : List (Word × Label)) :
    (dataset.itemsAt asked).1.length = asked.length := by
  rw [itemsAt_eq_accessAll, length_accessAll, List.length_map]

/-- Where there are indices enough, each label makes an access. -/
theorem itemsAt_zip (dataset : Dataset σ τ) {indices : List Word}
    {labels : List Label} (enough : labels.length ≤ indices.length) :
    dataset.itemsAt (indices.zip labels) = dataset.accessAll labels := by
  rw [itemsAt_eq_accessAll, List.map_snd_zip enough]

theorem itemsAt_take (dataset : Dataset σ τ)
    (asked : List (Word × Label)) (count : Nat) :
    (dataset.itemsAt (asked.take count)).1 =
      (dataset.itemsAt asked).1.take count := by
  rw [itemsAt_eq_accessAll, itemsAt_eq_accessAll, List.map_take,
    accessAll_take]

end Dataset

/-! ## Reading -/

namespace Iteration

/-- One item: the next index is used up, and the reading goes on unless the
access faults. -/
theorem read_cons (dataset : Dataset σ τ) (index : Word)
    (pending : List Word) (drawn : Label) (rest : List Label) :
    read { dataset, pending := index :: pending } (drawn :: rest) =
      match (dataset.itemAt index drawn).1.outcome with
      | .error _ =>
          ([(dataset.itemAt index drawn).1],
            { dataset := (dataset.itemAt index drawn).2, pending })
      | .ok _ =>
          let later :=
            read { dataset := (dataset.itemAt index drawn).2, pending } rest
          ((dataset.itemAt index drawn).1 :: later.1, later.2) := by
  rw [read, readOnto]
  simp only [next]
  change
    (match (dataset.itemAt index drawn).1.outcome with
      | .error _ => _
      | .ok _ => _) = _
  cases (dataset.itemAt index drawn).1.outcome with
  | error fault =>
      rfl
  | ok sample =>
      dsimp only
      rw [readOnto_eq]
      rfl

/-- A reading is the accesses that are due, up to the first fault. -/
theorem read_eq_itemsAt (iteration : Iteration σ τ) (labels : List Label) :
    let due := iteration.pending.zip labels
    let reached := Access.upToFault (iteration.dataset.itemsAt due).1
    iteration.read labels =
      ((iteration.dataset.itemsAt (due.take reached)).1,
        { dataset := (iteration.dataset.itemsAt (due.take reached)).2
          pending := iteration.pending.drop reached }) := by
  obtain ⟨dataset, pending⟩ := iteration
  -- Each item read takes one label and one index; either may run out first.
  induction labels generalizing dataset pending with
  | nil =>
      simp [Dataset.itemsAt, Access.upToFault]
  | cons drawn rest inductionHypothesis =>
      cases pending with
      | nil =>
          simp [Dataset.itemsAt, Access.upToFault, read, readOnto, next]
      | cons index pending =>
          rw [read_cons]
          simp only [List.zip_cons_cons, Dataset.itemsAt_cons,
            Access.upToFault]
          cases outcome : (dataset.itemAt index drawn).1.outcome with
          | error fault =>
              rfl
          | ok sample =>
              dsimp only
              rw [inductionHypothesis]
              rfl

/-- A reading makes one access for each of the first draws, as many as it
returns. -/
theorem read_eq_accessAll (iteration : Iteration σ τ) (labels : List Label) :
    let reading := iteration.read labels
    let sequence :=
      iteration.dataset.accessAll (labels.take reading.1.length)
    reading.1.length ≤ labels.length ∧
      reading.1 = sequence.1 ∧ reading.2.dataset = sequence.2 := by
  intro reading sequence
  let due := iteration.pending.zip labels
  obtain ⟨reached, withinDue, readingShape⟩ :
      ∃ reached, reached ≤ due.length ∧
        reading =
          ((iteration.dataset.itemsAt (due.take reached)).1,
            { dataset := (iteration.dataset.itemsAt (due.take reached)).2
              pending := iteration.pending.drop reached }) := by
    refine ⟨_, ?_, read_eq_itemsAt iteration labels⟩
    have atMost := Access.upToFault_le (iteration.dataset.itemsAt due).1
    rw [Dataset.length_itemsAt] at atMost
    exact atMost
  have readingLength : reading.1.length = reached := by
    rw [readingShape, Dataset.length_itemsAt, List.length_take]
    exact Nat.min_eq_left withinDue
  rw [List.length_zip] at withinDue
  have itemsReached :
      iteration.dataset.itemsAt (due.take reached) = sequence := by
    simp only [due, sequence, readingLength]
    rw [List.zip, List.take_zipWith]
    apply Dataset.itemsAt_zip
    rw [List.length_take, List.length_take]
    omega
  rw [itemsReached] at readingShape
  refine ⟨?_, ?_, ?_⟩
  · rw [readingLength]
    omega
  · rw [readingShape]
  · rw [readingShape]

end Iteration

/-- A function that hands values back and counts them, and faults once it has
counted `strength` of them. -/
def Transform.tiring {α : Type} (strength : Nat) : Transform Nat α where
  state := 0
  respond calls given :=
    (if calls < strength then .ok given else .error (.raised "tired"),
      calls + 1)

/-- Reading at most `limit` items of a visit, which goes to each index below the
size once, is asking for the items one by one, up to the first fault. -/
theorem read_refines_itemsAt (dataset : Dataset σ τ) (order : List Word)
    (visited : order.Perm (Collection.indices dataset))
    (draws : Draws) (position limit : Nat) :
    let visit := Iteration.start dataset order
    let reading := visit.read (draws.segment position limit)
    let due := order.zip (draws.segment position limit)
    let items := dataset.itemsAt due
    (order.map UInt64.toNat).Perm (List.range dataset.size.toNat) ∧
    due.length = min limit dataset.size.toNat ∧
    visit.remaining = dataset.size.toNat ∧
    Access.collect reading.1 = Access.collect items.1 ∧
    (Access.Faultless items.1 →
      reading.1 = items.1 ∧
      (∃ samples, Access.collect reading.1 = .ok samples ∧
        samples.length = min limit dataset.size.toNat) ∧
      reading.2.remaining =
        dataset.size.toNat - min limit dataset.size.toNat ∧
      reading.2.dataset = items.2) ∧
    ∀ number fault, Access.FirstFault items.1 number fault →
      Access.collect reading.1 = .error fault ∧
      reading.1 = (dataset.itemsAt (due.take (number + 1))).1 ∧
      reading.2.dataset = (dataset.itemsAt (due.take (number + 1))).2 := by
  intro visit reading due items
  have orderLength : order.length = dataset.size.toNat := by
    rw [visited.length_eq, Collection.length_indices]
    rfl
  have dueLength : due.length = min limit dataset.size.toNat := by
    simp only [due, List.length_zip, Draws.length_segment, orderLength]
    exact Nat.min_comm _ _
  have itemsLength : items.1.length = due.length :=
    Dataset.length_itemsAt dataset due
  have readingShape :
      reading =
        ((dataset.itemsAt (due.take (Access.upToFault items.1))).1,
          { dataset :=
              (dataset.itemsAt (due.take (Access.upToFault items.1))).2
            pending := order.drop (Access.upToFault items.1) }) :=
    Iteration.read_eq_itemsAt visit (draws.segment position limit)
  have sameCollected :
      Access.collect reading.1 = Access.collect items.1 := by
    rw [readingShape, Dataset.itemsAt_take, Access.collect_take_upToFault]
  refine ⟨?_, dueLength, orderLength, sameCollected, ?_, ?_⟩
  · have everyIndex := visited.map UInt64.toNat
    rw [Collection.map_toNat_indices] at everyIndex
    exact everyIndex
  · intro faultless
    have readingWhole :
        reading =
          (items.1, { dataset := items.2, pending := order.drop due.length }) := by
      rw [readingShape, faultless.upToFault_eq, itemsLength,
        List.take_length]
    obtain ⟨samples, collected, sampleCount⟩ := faultless.collect_eq
    refine ⟨?_, ⟨samples, ?_, ?_⟩, ?_, ?_⟩
    · rw [readingWhole]
    · rw [sameCollected, collected]
    · rw [sampleCount, itemsLength, dueLength]
    · rw [readingWhole, Iteration.remaining, List.length_drop, orderLength,
        dueLength]
    · rw [readingWhole]
  · intro number fault first
    rw [sameCollected, readingShape, first.upToFault_eq]
    exact ⟨first.collect_eq, rfl, rfl⟩

/-- Two items of ten thousand can be read before the function on images is
tired; the third access faults, and none of the others that were asked for is
made. -/
theorem read_with_tiring_function :
    let dataset : Dataset Nat Nat :=
      { classes := 10
        root := { bytes := [] }
        split := .test
        download := false
        imageTransform := some (Transform.tiring 2)
        labelTransform := none }
    let order := Collection.indices dataset
    let draws : Draws := fun position => UInt64.ofNat position
    let visit := Iteration.start dataset order
    order.Perm (Collection.indices dataset) ∧
    (Access.Faultless
        (dataset.itemsAt (order.zip (draws.segment 0 2))).1 ∧
      (visit.read (draws.segment 0 2)).2.remaining =
        dataset.size.toNat - min 2 dataset.size.toNat) ∧
    (Access.FirstFault
        (dataset.itemsAt (order.zip (draws.segment 0 5))).1 2
        (.raised "tired") ∧
      Access.collect (visit.read (draws.segment 0 5)).1 =
        .error (.raised "tired")) := by
  intro dataset order draws visit
  have visited : order.Perm (Collection.indices dataset) :=
    List.Perm.refl order
  have enough :
      ∀ limit, limit ≤ 10000 →
        (draws.segment 0 limit).length ≤ order.length := by
    intro limit within
    rw [Draws.length_segment, Collection.length_indices]
    exact within
  have faultless :
      Access.Faultless
        (dataset.itemsAt (order.zip (draws.segment 0 2))).1 := by
    rw [Dataset.itemsAt_zip dataset (enough 2 (by decide))]
    unfold Access.Faultless
    decide
  have firstFault :
      Access.FirstFault
        (dataset.itemsAt (order.zip (draws.segment 0 5))).1 2
        (.raised "tired") := by
    rw [Dataset.itemsAt_zip dataset (enough 5 (by decide))]
    refine ⟨?_, _, rfl, rfl⟩
    unfold Access.Faultless
    decide
  have readTwo := read_refines_itemsAt dataset order visited draws 0 2
  have readFive := read_refines_itemsAt dataset order visited draws 0 5
  exact
    ⟨visited, ⟨faultless, (readTwo.2.2.2.2.1 faultless).2.2.1⟩,
      ⟨firstFault, (readFive.2.2.2.2.2 2 (.raised "tired") firstFault).1⟩⟩

end BlankImages
