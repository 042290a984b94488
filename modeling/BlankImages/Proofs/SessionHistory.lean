import BlankImages.Proofs.VisitReading
import BlankImages.Proofs.WorkerHalves
import BlankImages.Session

/-!
# The history of a collection

A session is taken through commands of all kinds.  Whatever they are, and
whichever of them fault, the collection that is held has been made by one of
them; since then its split may have been assigned and its functions may have
been called, and all else is as it was made.  No number of samples is kept
anywhere, so what a collection says about its split follows every assignment.
-/

namespace BlankImages

variable {σ τ : Type}

/-! ## The views of a split -/

namespace Dataset

/-- All that a collection tells about its split agrees. -/
structure ViewsAgree (dataset : Dataset σ τ) : Prop where
  isTrain : dataset.isTrain = true ↔ dataset.split = .train
  sizes : dataset.size = Collection.size dataset
  freshVisit :
    ∀ order, order.Perm (Collection.indices dataset) →
      (Iteration.start dataset order).remaining = dataset.size.toNat
  train : dataset.split = .train → dataset.size = 50000
  test : dataset.split = .test → dataset.size = 10000
  notEmpty : dataset.isEmpty = false
  collectionNotEmpty : Collection.isEmpty dataset = false

theorem viewsAgree (dataset : Dataset σ τ) : ViewsAgree dataset where
  isTrain := beq_iff_eq
  sizes := rfl
  freshVisit := by
    intro order visited
    rw [Iteration.remaining, Iteration.start, visited.length_eq,
      Collection.length_indices]
    rfl
  train := by
    intro isTrain
    rw [size, isTrain]
    rfl
  test := by
    intro isTest
    rw [size, isTest]
    rfl
  notEmpty := by
    rw [isEmpty, size]
    cases dataset.split <;> rfl
  collectionNotEmpty := by
    change (dataset.split.size == 0) = false
    cases dataset.split <;> rfl

end Dataset

namespace Session

/-! ## Kinds of commands -/

namespace Command

/-- The slot of which a command is an operation. -/
def concerns : Command σ τ → Slot
  | .start _ | .set _ | .describeBuilder | .build => .builder
  | _ => .dataset

/-- The slot that has to be filled for a command. -/
def needs : Command σ τ → Option Slot
  | .start _ | .create .. => none
  | command => some command.concerns

def assigns? : Command σ τ → Option Split
  | .assignSplit split => some split
  | _ => none

theorem concerns_of_needs {command : Command σ τ} {slot : Slot}
    (needed : command.needs = some slot) : command.concerns = slot := by
  cases command <;> cases needed <;> rfl

theorem assigns?_of_concerns {command : Command σ τ}
    (concerning : command.concerns = .builder) : command.assigns? = none := by
  cases command <;> cases concerning <;> rfl

end Command

/-- Whether a computation of the caller or of the library has faulted under the
command that is answered so. -/
def Reply.faults : Reply σ τ → Bool
  | .named naming => !naming.name.isOk
  | .accessed access _ => access.fault?.isSome
  | .accesses made => made.any fun access => access.fault?.isSome
  | .namings made names =>
      (made.any fun access => access.fault?.isSome) ||
        names.any fun naming => !naming.name.isOk
  | .iterated _ made _ _ => made.any fun access => access.fault?.isSome
  | _ => false

/-- The command makes a collection: from all that the builder holds, or else from
a root path and the choice of a half, without a download and without functions. -/
inductive Makes (session : Session σ τ) : Command σ τ → Dataset σ τ → Prop
  | build {builder : Builder σ τ} (held : session.builder? = some builder) :
      Makes session .build
        { classes := builder.classes
          root := builder.root
          split := if builder.train then .train else .test
          download := builder.download
          imageTransform := builder.imageTransform
          labelTransform := builder.labelTransform }
  | create (root : Root) (train : Bool) :
      Makes session (.create root train)
        { classes := session.classes
          root := root
          split := if train then .train else .test
          download := false
          imageTransform := none
          labelTransform := none }

theorem makes_of_build {session : Session σ τ} {builder : Builder σ τ}
    (held : session.builder? = some builder) :
    session.Makes .build builder.build := by
  have makes := Makes.build held
  rw [← Split.ofTrainFlag_eq] at makes
  exact makes

theorem makes_of_create (session : Session σ τ) (root : Root) (train : Bool) :
    session.Makes (.create root train)
      (Builder.plain session.classes root train).build := by
  have makes : session.Makes (.create root train) _ :=
    Makes.create root train
  rw [← Split.ofTrainFlag_eq] at makes
  exact makes

/-! ## What a command can do -/

/-- The answer to a command and what it does to the slots. -/
inductive Obeyed (session : Session σ τ) :
    Command σ τ → Reply σ τ → Session σ τ → Prop
  | refused {command : Command σ τ} {slot : Slot} {reply : Reply σ τ}
      (needed : command.needs = some slot)
      (refusal : session.refusal? slot = some reply) :
      Obeyed session command reply session
  | started (root : Root) :
      Obeyed session (.start root) .done
        { session with builder? := some (Builder.start session.classes root) }
  | set {builder : Builder σ τ} (setting : Setting σ τ)
      (held : session.builder? = some builder) :
      Obeyed session (.set setting) .done
        { session with builder? := some (builder.set setting) }
  | described {builder : Builder σ τ}
      (held : session.builder? = some builder) :
      Obeyed session .describeBuilder (.described builder.record) session
  | built {builder : Builder σ τ} (held : session.builder? = some builder) :
      Obeyed session .build (.events builder.events)
        { session with builder? := none, dataset? := some builder.build }
  | created (root : Root) (train : Bool) :
      Obeyed session (.create root train)
        (.events (Builder.plain session.classes root train).events)
        { session with
          dataset? := some (Builder.plain session.classes root train).build }
  | assigned {dataset : Dataset σ τ} (split : Split)
      (held : session.dataset? = some dataset) :
      Obeyed session (.assignSplit split) .done
        { session with dataset? := some (dataset.withSplit split) }
  | used {command : Command σ τ} {dataset after : Dataset σ τ}
      {reply : Reply σ τ} (count : Nat)
      (needed : command.needs = some .dataset)
      (unassigning : command.assigns? = none)
      (held : session.dataset? = some dataset)
      (used : dataset.Used after) :
      Obeyed session command reply
        { session with
          dataset? := some after
          drawn := session.drawn + count }

section

variable {session : Session σ τ} {command : Command σ τ}

theorem refusal?_builder_iff {reply : Reply σ τ} :
    session.refusal? .builder = some reply ↔
      session.builder? = none ∧ reply = .noBuilder := by
  cases held : session.builder? with
  | none =>
      simp [refusal?, held, eq_comm]
  | some builder =>
      simp [refusal?, held]

theorem refusal?_dataset_iff {reply : Reply σ τ} :
    session.refusal? .dataset = some reply ↔
      session.dataset? = none ∧ reply = .noDataset := by
  cases held : session.dataset? with
  | none =>
      simp [refusal?, held, eq_comm]
  | some dataset =>
      simp [refusal?, held]

theorem not_refusal_of_builder {builder : Builder σ τ}
    (held : session.builder? = some builder) (reply : Reply σ τ) :
    session.refusal? .builder ≠ some reply := by
  intro refusal
  rw [(refusal?_builder_iff.mp refusal).1] at held
  cases held

theorem not_refusal_of_dataset {dataset : Dataset σ τ}
    (held : session.dataset? = some dataset) (reply : Reply σ τ) :
    session.refusal? .dataset ≠ some reply := by
  intro refusal
  rw [(refusal?_dataset_iff.mp refusal).1] at held
  cases held

theorem not_makes_of_refusal {slot : Slot} {reply : Reply σ τ}
    (needed : command.needs = some slot)
    (refusal : session.refusal? slot = some reply) (made : Dataset σ τ) :
    ¬ session.Makes command made := by
  intro makes
  cases makes with
  | build held =>
      cases needed
      exact not_refusal_of_builder held reply refusal
  | create root train =>
      cases needed

theorem not_makes_of_needs (needed : command.needs = some .dataset)
    (made : Dataset σ τ) : ¬ session.Makes command made := by
  intro makes
  cases makes <;> cases needed

theorem refused_of_noBuilder (needed : command.needs = some .builder)
    (empty : session.builder? = none) :
    Obeyed session command .noBuilder session :=
  Obeyed.refused needed (refusal?_builder_iff.mpr ⟨empty, rfl⟩)

theorem refused_of_noDataset (needed : command.needs = some .dataset)
    (empty : session.dataset? = none) :
    Obeyed session command .noDataset session :=
  Obeyed.refused needed (refusal?_dataset_iff.mpr ⟨empty, rfl⟩)

end

/-! ### Uses of the collection -/

theorem used_itemBy (route : Route) (dataset : Dataset σ τ) (index : Word)
    (drawn : Label) : dataset.Used (itemBy route dataset index drawn).2 := by
  cases route with
  | direct =>
      exact dataset.used_access drawn
  | shared =>
      exact dataset.used_access drawn

theorem used_share (draws : Draws) (position workers count : Nat)
    (dataset : Dataset σ τ) :
    dataset.Used (share draws position workers count dataset).2.1 := by
  rw [share]
  dsimp only
  rw [Pool.run_dataset]
  exact ⟨⟨rfl, rfl, rfl, ⟨_, rfl⟩, ⟨_, rfl⟩⟩, rfl⟩

theorem used_iterate (draws : Draws) (position limit : Nat)
    (seed? : Option Word) (dataset : Dataset σ τ) :
    dataset.Used (iterate draws position limit seed? dataset).2.1 := by
  let visit := Iteration.start dataset (order dataset seed?)
  obtain ⟨_, _, sameDataset⟩ :=
    visit.read_eq_accessAll
      (draws.segment position (min limit visit.remaining))
  change
    dataset.Used
      (visit.read
        (draws.segment position (min limit visit.remaining))).2.dataset
  rw [sameDataset]
  exact dataset.used_accessAll _

theorem obeyed_onDataset {session : Session σ τ} {command : Command σ τ}
    {use : Dataset σ τ → Reply σ τ × Dataset σ τ × Nat}
    (needed : command.needs = some .dataset)
    (unassigning : command.assigns? = none)
    (used : ∀ dataset : Dataset σ τ, dataset.Used (use dataset).2.1) :
    Obeyed session command (session.onDataset use).1
      (session.onDataset use).2 := by
  cases held : session.dataset? with
  | none =>
      simp only [onDataset, held]
      exact refused_of_noDataset needed held
  | some dataset =>
      simp only [onDataset, held]
      exact
        Obeyed.used (use dataset).2.2 needed unassigning held (used dataset)

/-! ### Every command -/

theorem obey_obeyed (draws : Draws) (session : Session σ τ)
    (command : Command σ τ) :
    Obeyed session command (session.obey draws command).1
      (session.obey draws command).2 := by
  cases command with
  | start root =>
      exact Obeyed.started root
  | set setting =>
      cases held : session.builder? with
      | none =>
          simp only [obey, Session.set, held]
          exact refused_of_noBuilder rfl held
      | some builder =>
          simp only [obey, Session.set, held]
          exact Obeyed.set setting held
  | describeBuilder =>
      cases held : session.builder? with
      | none =>
          simp only [obey, held]
          exact refused_of_noBuilder rfl held
      | some builder =>
          simp only [obey, held]
          exact Obeyed.described held
  | build =>
      cases held : session.builder? with
      | none =>
          simp only [obey, Session.build, held]
          exact refused_of_noBuilder rfl held
      | some builder =>
          simp only [obey, Session.build, held]
          exact Obeyed.built held
  | create root train =>
      exact Obeyed.created root train
  | assignSplit split =>
      cases held : session.dataset? with
      | none =>
          simp only [obey, onDataset, held]
          exact refused_of_noDataset rfl held
      | some dataset =>
          simp only [obey, onDataset, held]
          exact Obeyed.assigned split held
  | observe =>
      exact obeyed_onDataset rfl rfl fun dataset => Dataset.Used.refl dataset
  | describe =>
      exact obeyed_onDataset rfl rfl fun dataset => Dataset.Used.refl dataset
  | name label =>
      apply obeyed_onDataset rfl rfl
      intro dataset
      cases dataset.labelTable? with
      | none =>
          exact Dataset.Used.refl dataset
      | some table =>
          exact Dataset.Used.refl dataset
  | access route index =>
      exact
        obeyed_onDataset rfl rfl fun dataset =>
          used_itemBy route dataset index (draws session.drawn)
  | accessMany count =>
      exact
        obeyed_onDataset rfl rfl fun dataset =>
          dataset.used_accessAll (draws.segment session.drawn count)
  | share workers count =>
      exact
        obeyed_onDataset rfl rfl
          (used_share draws session.drawn workers count)
  | nameMany count =>
      exact
        obeyed_onDataset rfl rfl fun dataset =>
          dataset.used_accessAll (draws.segment session.drawn count)
  | iterate limit seed? =>
      exact
        obeyed_onDataset rfl rfl
          (used_iterate draws session.drawn limit seed?)

/-! ## Commands in order -/

theorem rel_refl {relation : Dataset σ τ → Dataset σ τ → Prop}
    (reflexive : ∀ dataset, relation dataset dataset)
    (held? : Option (Dataset σ τ)) : Option.Rel relation held? held? := by
  cases held? with
  | none =>
      exact Option.Rel.none
  | some dataset =>
      exact Option.Rel.some (reflexive dataset)

theorem obeyAll_cons (draws : Draws) (session : Session σ τ)
    (command : Command σ τ) (rest : List (Command σ τ)) :
    (session.obeyAll draws (command :: rest)).2 =
      ((session.obey draws command).2.obeyAll draws rest).2 :=
  rfl

/-- What has become of a collection under commands that made no other: it is the
same at a later time, with the split that was assigned last. -/
structure Kept (commands : List (Command σ τ)) (first last : Dataset σ τ) :
    Prop where
  later : first.Later last
  split :
    last.split =
      (commands.filterMap Command.assigns?).getLast?.getD first.split

namespace Kept

theorem refl (dataset : Dataset σ τ) : Kept [] dataset dataset :=
  ⟨Dataset.Later.refl dataset, rfl⟩

theorem append {before since : List (Command σ τ)}
    {first second third : Dataset σ τ} (keptBefore : Kept before first second)
    (keptSince : Kept since second third) :
    Kept (before ++ since) first third where
  later := keptBefore.later.trans keptSince.later
  split := by
    rw [keptSince.split, keptBefore.split, List.filterMap_append,
      List.getLast?_append, Option.getD_or]

theorem rel_append {before since : List (Command σ τ)}
    {first? second? third? : Option (Dataset σ τ)}
    (keptBefore : Option.Rel (Kept before) first? second?)
    (keptSince : Option.Rel (Kept since) second? third?) :
    Option.Rel (Kept (before ++ since)) first? third? := by
  cases keptBefore with
  | none =>
      cases keptSince
      exact Option.Rel.none
  | some kept =>
      cases keptSince with
      | some onward =>
          exact Option.Rel.some (kept.append onward)

theorem of_used {command : Command σ τ} {first last : Dataset σ τ}
    (unassigning : command.assigns? = none) (used : first.Used last) :
    Kept [command] first last where
  later := used.toLater
  split := by
    rw [List.filterMap_cons_none unassigning]
    exact used.split

theorem of_withSplit (dataset : Dataset σ τ) (split : Split) :
    Kept [.assignSplit split] dataset (dataset.withSplit split) where
  later :=
    ⟨rfl, rfl, rfl, Transform.Later.refl _, Transform.Later.refl _⟩
  split := rfl

end Kept

/-- A command makes a collection, or it makes none and keeps what is held. -/
theorem Obeyed.makes_or_keeps {session after : Session σ τ}
    {command : Command σ τ} {reply : Reply σ τ}
    (obeyed : Obeyed session command reply after) :
    (∃ made, session.Makes command made ∧ after.dataset? = some made) ∨
    (∀ made, ¬ session.Makes command made) ∧
      Option.Rel (Kept [command]) session.dataset? after.dataset? := by
  have keepsSlot :
      ∀ command : Command σ τ, command.assigns? = none →
        Option.Rel (Kept [command]) session.dataset? session.dataset? := by
    intro command unassigning
    apply rel_refl
    intro dataset
    exact Kept.of_used unassigning (Dataset.Used.refl dataset)
  cases obeyed with
  | @refused _ slot _ needed refusal =>
      refine Or.inr ⟨not_makes_of_refusal needed refusal, ?_⟩
      cases slot with
      | builder =>
          exact
            keepsSlot command
              (Command.assigns?_of_concerns (Command.concerns_of_needs needed))
      | dataset =>
          -- The command may assign a split, but there is none to be assigned.
          rw [(refusal?_dataset_iff.mp refusal).1]
          exact Option.Rel.none
  | started root =>
      exact Or.inr ⟨nofun, keepsSlot _ rfl⟩
  | set setting held =>
      exact Or.inr ⟨nofun, keepsSlot _ rfl⟩
  | described held =>
      exact Or.inr ⟨nofun, keepsSlot _ rfl⟩
  | built held =>
      exact Or.inl ⟨_, makes_of_build held, rfl⟩
  | created root train =>
      exact Or.inl ⟨_, makes_of_create session root train, rfl⟩
  | assigned split held =>
      rw [held]
      exact Or.inr ⟨nofun, Option.Rel.some (Kept.of_withSplit _ split)⟩
  | used count needed unassigning held used =>
      rw [held]
      exact
        Or.inr
          ⟨not_makes_of_needs needed,
            Option.Rel.some (Kept.of_used unassigning used)⟩

def MakesNone (draws : Draws) (session : Session σ τ) :
    List (Command σ τ) → Prop
  | [] => True
  | command :: rest =>
      (∀ made, ¬ session.Makes command made) ∧
        MakesNone draws (session.obey draws command).2 rest

/-- A collection stems from a run: one command has made it, none since then has
made another, and it has been kept. -/
def Stems (draws : Draws) (session : Session σ τ)
    (commands : List (Command σ τ)) (dataset : Dataset σ τ) : Prop :=
  ∃ before maker since made,
    commands = before ++ maker :: since ∧
    (session.obeyAll draws before).2.Makes maker made ∧
    MakesNone draws
      ((session.obeyAll draws before).2.obey draws maker).2 since ∧
    Kept since made dataset

/-- What is held after a run was held before it, unless it stems from the run. -/
theorem kept_or_stems (draws : Draws) (session : Session σ τ)
    (commands : List (Command σ τ)) :
    let last := (session.obeyAll draws commands).2
    MakesNone draws session commands ∧
      Option.Rel (Kept commands) session.dataset? last.dataset? ∨
    ∃ dataset, last.dataset? = some dataset ∧
      Stems draws session commands dataset := by
  induction commands generalizing session with
  | nil =>
      exact Or.inl ⟨trivial, rel_refl Kept.refl session.dataset?⟩
  | cons command rest inductionHypothesis =>
      intro last
      have onward := inductionHypothesis (session.obey draws command).2
      rw [← obeyAll_cons] at onward
      rcases onward with ⟨restMakesNone, restKept⟩ | stemming
      · rcases (obey_obeyed draws session command).makes_or_keeps with
          ⟨made, makes, holds⟩ | ⟨makesNone, kept⟩
        · -- The first command makes the collection, whatever it finds in the slot.
          rw [holds] at restKept
          cases held : last.dataset? with
          | none =>
              rw [held] at restKept
              cases restKept
          | some dataset =>
              rw [held] at restKept
              cases restKept with
              | some keptSince =>
                  exact
                    Or.inr
                      ⟨dataset, rfl, [], command, rest, made, rfl, makes,
                        restMakesNone, keptSince⟩
        · exact
            Or.inl ⟨⟨makesNone, restMakesNone⟩, Kept.rel_append kept restKept⟩
      · obtain ⟨dataset, held, before, maker, since, made, rfl, makes,
          makesNone, kept⟩ := stemming
        exact
          Or.inr
            ⟨dataset, held, command :: before, maker, since, made, rfl,
              makes, makesNone, kept⟩

theorem stems_of_held {classes : Word} {draws : Draws}
    {commands : List (Command σ τ)} {dataset : Dataset σ τ}
    (held :
      ((start classes : Session σ τ).obeyAll draws commands).2.dataset? =
        some dataset) :
    Stems draws (start classes) commands dataset := by
  rcases kept_or_stems draws (start classes : Session σ τ) commands with
    ⟨_, kept⟩ | ⟨found, alsoHeld, stems⟩
  · rw [held] at kept
    cases kept
  · rw [held] at alsoHeld
    cases alsoHeld
    exact stems

/-! ## What a command leaves alone -/

/-- From one session to the next, the builder is the same, and nothing has
happened to the collection but calls of its functions. -/
structure Undisturbed (session after : Session σ τ) : Prop where
  builder : after.builder? = session.builder?
  dataset : Option.Rel Dataset.Used session.dataset? after.dataset?

theorem Undisturbed.refl (session : Session σ τ) :
    Undisturbed session session where
  builder := rfl
  dataset := rel_refl Dataset.Used.refl session.dataset?

theorem Undisturbed.of_used {session : Session σ τ}
    {dataset after : Dataset σ τ} (held : session.dataset? = some dataset)
    (used : dataset.Used after) (count : Nat) :
    Undisturbed session
      { session with
        dataset? := some after
        drawn := session.drawn + count } where
  builder := rfl
  dataset := by
    rw [held]
    exact Option.Rel.some used

namespace Obeyed

variable {session after : Session σ τ} {command : Command σ τ}
  {reply : Reply σ τ}

theorem dataset?_eq (obeyed : Obeyed session command reply after)
    (concerning : command.concerns = .builder) (other : command ≠ .build) :
    after.dataset? = session.dataset? := by
  cases obeyed with
  | refused needed refusal =>
      rfl
  | started root =>
      rfl
  | set setting held =>
      rfl
  | described held =>
      rfl
  | built held =>
      exact absurd rfl other
  | created root train =>
      cases concerning
  | assigned split held =>
      cases concerning
  | used count needed unassigning held used =>
      rw [Command.concerns_of_needs needed] at concerning
      cases concerning

theorem builder?_eq (obeyed : Obeyed session command reply after)
    (concerning : command.concerns = .dataset) :
    after.builder? = session.builder? := by
  cases obeyed with
  | refused needed refusal =>
      rfl
  | started root =>
      cases concerning
  | set setting held =>
      cases concerning
  | described held =>
      rfl
  | built held =>
      cases concerning
  | created root train =>
      rfl
  | assigned split held =>
      rfl
  | used count needed unassigning held used =>
      rfl

theorem builder?_of_build (obeyed : Obeyed session .build reply after) :
    after.builder? = none := by
  cases obeyed with
  | refused needed refusal =>
      cases needed
      exact (refusal?_builder_iff.mp refusal).1
  | built held =>
      rfl
  | used count needed unassigning held used =>
      cases needed

theorem of_refusal {refusalReply : Reply σ τ} {slot : Slot}
    (obeyed : Obeyed session command reply after)
    (needed : command.needs = some slot)
    (refusal : session.refusal? slot = some refusalReply) :
    reply = refusalReply ∧ after = session := by
  cases obeyed with
  | refused alsoNeeded alsoRefusal =>
      rw [needed] at alsoNeeded
      cases alsoNeeded
      rw [refusal] at alsoRefusal
      cases alsoRefusal
      exact ⟨rfl, rfl⟩
  | started root =>
      cases needed
  | set setting held =>
      cases needed
      exact absurd refusal (not_refusal_of_builder held refusalReply)
  | described held =>
      cases needed
      exact absurd refusal (not_refusal_of_builder held refusalReply)
  | built held =>
      cases needed
      exact absurd refusal (not_refusal_of_builder held refusalReply)
  | created root train =>
      cases needed
  | assigned split held =>
      cases needed
      exact absurd refusal (not_refusal_of_dataset held refusalReply)
  | used count alsoNeeded unassigning held used =>
      rw [needed] at alsoNeeded
      cases alsoNeeded
      exact absurd refusal (not_refusal_of_dataset held refusalReply)

theorem undisturbed_of_unassigning
    (obeyed : Obeyed session command reply after)
    (needed : command.needs = some .dataset)
    (unassigning : command.assigns? = none) : Undisturbed session after := by
  cases obeyed with
  | refused alsoNeeded refusal =>
      exact Undisturbed.refl session
  | started root =>
      cases needed
  | set setting held =>
      cases needed
  | described held =>
      exact Undisturbed.refl session
  | built held =>
      cases needed
  | created root train =>
      cases needed
  | assigned split held =>
      cases unassigning
  | used count alsoNeeded alsoUnassigning held used =>
      exact Undisturbed.of_used held used count

/-- Only a use of the collection can fault. -/
theorem undisturbed_of_faults (obeyed : Obeyed session command reply after)
    (faulted : reply.faults = true) : Undisturbed session after := by
  cases obeyed with
  | refused needed refusal =>
      exact Undisturbed.refl session
  | started root =>
      cases faulted
  | set setting held =>
      cases faulted
  | described held =>
      cases faulted
  | built held =>
      cases faulted
  | created root train =>
      cases faulted
  | assigned split held =>
      cases faulted
  | used count needed unassigning held used =>
      exact Undisturbed.of_used held used count

end Obeyed

end Session

/-- In every run from empty slots, the collection that is held stems from the
command that made it and from the assignments since, and its views of the split
agree.  The next command, whatever it is, leaves alone what it does not
concern. -/
theorem slots_of_every_run (classes : Word) (draws : Draws)
    (commands : List (Session.Command σ τ)) :
    let first : Session σ τ := Session.start classes
    let session := (first.obeyAll draws commands).2
    (first.builder? = none ∧ first.dataset? = none) ∧
    (∀ dataset, session.dataset? = some dataset →
      Session.Stems draws first commands dataset ∧
      dataset.ViewsAgree ∧
      (session.obey draws .observe).1 = .observed dataset) ∧
    ∀ command : Session.Command σ τ,
      let reply := (session.obey draws command).1
      let after := (session.obey draws command).2
      (command.concerns = .builder → command ≠ .build →
        after.dataset? = session.dataset?) ∧
      (command.concerns = .dataset → after.builder? = session.builder?) ∧
      (command = .build → after.builder? = none) ∧
      (∀ slot refusal, command.needs = some slot →
        session.refusal? slot = some refusal →
          reply = refusal ∧ after = session) ∧
      (command.needs = some .dataset → command.assigns? = none →
        session.Undisturbed after) ∧
      (reply.faults = true → session.Undisturbed after) := by
  intro first session
  refine ⟨⟨rfl, rfl⟩, ?_, ?_⟩
  · intro dataset held
    refine ⟨Session.stems_of_held held, dataset.viewsAgree, ?_⟩
    simp only [Session.obey, Session.onDataset, held]
  · intro command reply after
    have obeyed : session.Obeyed command reply after :=
      Session.obey_obeyed draws session command
    refine ⟨obeyed.dataset?_eq, obeyed.builder?_eq, ?_, ?_,
      obeyed.undisturbed_of_unassigning, obeyed.undisturbed_of_faults⟩
    · intro isBuild
      subst isBuild
      exact obeyed.builder?_of_build
    · intro slot refusal
      exact obeyed.of_refusal

/-- A run in which a function gets tired and the split is assigned, with an
attempt to set the builder that is no longer there. -/
theorem slots_of_a_tiring_run :
    let draws : Draws := fun position => UInt64.ofNat position
    let root : Root := { bytes := [0x2F] }
    let tiring : Transform Nat Image := Transform.tiring 2
    let commands : List (Session.Command Nat Nat) :=
      [.start root, .set (.download true), .set (.imageTransform tiring),
        .build, .assignSplit .test, .access .direct 7]
    let first : Session Nat Nat := Session.start 10
    let session := (first.obeyAll draws commands).2
    let dataset : Dataset Nat Nat :=
      { classes := 10
        root := root
        split := .test
        download := true
        imageTransform := some { tiring with state := 1 }
        labelTransform := none }
    let failing : Session.Command Nat Nat := .accessMany 2
    let setting : Session.Command Nat Nat := .set (.train true)
    session.dataset? = some dataset ∧
      Session.Stems draws first commands dataset ∧
      dataset.ViewsAgree ∧
      (session.obey draws .observe).1 = .observed dataset ∧
      (session.obey draws (.start root)).2.dataset? = session.dataset? ∧
      (session.obey draws failing).2.builder? = session.builder? ∧
      (session.obey draws .build).2.builder? = none ∧
      (session.obey draws setting).1 = .noBuilder ∧
      (session.obey draws setting).2 = session ∧
      (session.obey draws failing).1.faults = true ∧
      session.Undisturbed (session.obey draws failing).2 ∧
      session.Undisturbed (session.obey draws .describe).2 := by
  intro draws root tiring commands first session dataset failing setting
  obtain ⟨_, ofHeld, ofNext⟩ := slots_of_every_run 10 draws commands
  have held : session.dataset? = some dataset := rfl
  have faulted : (session.obey draws failing).1.faults = true := by
    decide +kernel
  obtain ⟨stems, viewsAgree, observed⟩ := ofHeld dataset held
  obtain ⟨refused, unchanged⟩ :=
    (ofNext setting).2.2.2.1 .builder .noBuilder rfl rfl
  exact
    ⟨held, stems, viewsAgree, observed,
      (ofNext (.start root)).1 rfl nofun,
      (ofNext failing).2.1 rfl,
      (ofNext .build).2.2.1 rfl,
      refused, unchanged, faulted,
      (ofNext failing).2.2.2.2.2 faulted,
      (ofNext .describe).2.2.2.2.1 rfl rfl⟩

end BlankImages
