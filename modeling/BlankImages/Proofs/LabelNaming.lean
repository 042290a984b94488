import BlankImages.Dataset.Naming
import BlankImages.Proofs.SampleHalves
import BlankImages.Proofs.VisitReading
import BlankImages.Survey

/-!
# Naming the labels of accesses

A table has as many names as its collection has classes, so a drawn label can
always be named.  A function on labels may answer anything: what is looked up is
its answer and not what was drawn, and the look-ups that fail are those of the
answers that belong to no class.  Where a function faults there is no answer, and
nothing is looked up.
-/

namespace BlankImages

/-! ## One look-up -/

namespace LabelTable

theorem forClasses?_eq_some_iff {classes : Word} {table : LabelTable} :
    forClasses? classes = some table ↔
      classes = 10 ∧ table = cifar10 ∨ classes = 100 ∧ table = cifar100 := by
  unfold forClasses?
  by_cases ten : classes = 10
  · subst ten
    simp [eq_comm]
  · rw [if_neg ten]
    by_cases hundred : classes = 100
    · subst hundred
      simp [eq_comm]
    · rw [if_neg hundred]
      simp [ten, hundred]

theorem naming_of_lt {table : LabelTable} {label : Label}
    (within : label.toNat < table.size) :
    ∃ name, table.names[label.toNat]? = some name ∧
      table.naming label = { name := .ok name, name? := .ok name } := by
  have found : table.names[label.toNat]? = some table.names[label.toNat] :=
    List.getElem?_eq_getElem within
  refine ⟨_, found, ?_⟩
  simp only [naming, name, name?, found]

theorem naming_of_le {table : LabelTable} {label : Label}
    (past : table.size ≤ label.toNat) :
    table.naming label =
      { name := .error (.indexOutOfBounds table.size label.toNat)
        name? := .error { found := label, max := UInt64.ofNat table.size } } := by
  have missing : table.names[label.toNat]? = none :=
    List.getElem?_eq_none past
  simp only [naming, name, name?, missing]

/-- The two ways of looking up a label in the table of some classes go together:
either both give the entry of the label, or both fail and tell the label and the
number of classes. -/
structure Settles (table : LabelTable) (classes : Word) (label : Label) :
    Prop where
  entry :
    label < classes →
      ∃ name, table.names[label.toNat]? = some name ∧
        table.name label = .ok name ∧ table.name? label = .ok name
  fault_iff :
    ∀ fault, table.name label = .error fault ↔
      classes ≤ label ∧
        fault = .indexOutOfBounds classes.toNat label.toNat
  error_iff :
    ∀ error, table.name? label = .error error ↔
      classes ≤ label ∧ error = { found := label, max := classes }

theorem settles {table : LabelTable} {classes : Word}
    (sameSize : table.size = classes.toNat) (label : Label) :
    table.Settles classes label := by
  by_cases within : label < classes
  · have notPast : ¬ classes ≤ label := UInt64.not_le.mpr within
    have withinTable : label.toNat < table.size := by
      rw [sameSize]
      exact within
    obtain ⟨entry, found, named⟩ := naming_of_lt withinTable
    have nameReturns : table.name label = .ok entry :=
      congrArg Naming.name named
    have nameReturns? : table.name? label = .ok entry :=
      congrArg Naming.name? named
    exact
      { entry := fun _ => ⟨entry, found, nameReturns, nameReturns?⟩
        fault_iff := by simp [nameReturns, notPast]
        error_iff := by simp [nameReturns?, notPast] }
  · have past : classes ≤ label := UInt64.not_lt.mp within
    have pastTable : table.size ≤ label.toNat := by
      rw [sameSize]
      exact past
    have named := naming_of_le pastTable
    rw [sameSize, UInt64.ofNat_toNat] at named
    have nameFails :
        table.name label =
          .error (.indexOutOfBounds classes.toNat label.toNat) :=
      congrArg Naming.name named
    have nameFails? :
        table.name? label = .error { found := label, max := classes } :=
      congrArg Naming.name? named
    exact
      { entry := fun below => absurd below within
        fault_iff := by simp [nameFails, past, eq_comm]
        error_iff := by simp [nameFails?, past, eq_comm] }

end LabelTable

namespace Naming

def fault? (naming : Naming) : Option Fault :=
  match naming.name with
  | .ok _ => none
  | .error fault => some fault

def error? (naming : Naming) : Option LabelError :=
  match naming.name? with
  | .ok _ => none
  | .error error => some error

end Naming

namespace LabelTable.Settles

variable {table : LabelTable} {classes : Word} {label : Label}

theorem fault?_naming (settled : table.Settles classes label) :
    (table.naming label).fault? =
      if classes ≤ label then
        some (.indexOutOfBounds classes.toNat label.toNat)
      else none := by
  unfold Naming.fault? naming
  cases looked : table.name label with
  | ok name =>
      have notPast : ¬ classes ≤ label := by
        intro past
        have fails := (settled.fault_iff _).mpr ⟨past, rfl⟩
        rw [looked] at fails
        cases fails
      rw [if_neg notPast]
  | error fault =>
      obtain ⟨past, rfl⟩ := (settled.fault_iff fault).mp looked
      rw [if_pos past]

theorem error?_naming (settled : table.Settles classes label) :
    (table.naming label).error? =
      if classes ≤ label then some { found := label, max := classes }
      else none := by
  unfold Naming.error? naming
  cases looked : table.name? label with
  | ok name =>
      have notPast : ¬ classes ≤ label := by
        intro past
        have fails := (settled.error_iff _).mpr ⟨past, rfl⟩
        rw [looked] at fails
        cases fails
      rw [if_neg notPast]
  | error error =>
      obtain ⟨past, rfl⟩ := (settled.error_iff error).mp looked
      rw [if_pos past]

end LabelTable.Settles

/-! ## Look-ups behind accesses -/

namespace LabelTable

theorem namings_eq_flatMap (table : LabelTable) (accesses : List Access) :
    table.namings accesses =
      accesses.flatMap fun access => table.namings [access] := by
  induction accesses with
  | nil =>
      rfl
  | cons access rest inductionHypothesis =>
      rw [List.flatMap_cons, ← inductionHypothesis]
      exact @List.filterMap_append _ _ [access] rest _

/-- What is looked up are the labels that the accesses return. -/
theorem namings_eq_map (table : LabelTable) (accesses : List Access) :
    table.namings accesses =
      (Survey.allLabels accesses).map table.naming := by
  rw [namings, Survey.allLabels, List.map_filterMap]
  congr 1
  funext access
  rw [Option.map_map]
  rfl

theorem filterMap_fault?_namings {table : LabelTable} {classes : Word}
    (sameSize : table.size = classes.toNat) (accesses : List Access) :
    (table.namings accesses).filterMap Naming.fault? =
      ((Survey.allLabels accesses).filter fun label => classes ≤ label).map
        fun label => .indexOutOfBounds classes.toNat label.toNat := by
  rw [namings_eq_map, List.filterMap_map, ← List.filterMap_eq_map,
    List.filterMap_filter]
  congr 1
  funext label
  simpa using (settles sameSize label).fault?_naming

theorem filterMap_error?_namings {table : LabelTable} {classes : Word}
    (sameSize : table.size = classes.toNat) (accesses : List Access) :
    (table.namings accesses).filterMap Naming.error? =
      ((Survey.allLabels accesses).filter fun label => classes ≤ label).map
        fun label => { found := label, max := classes } := by
  rw [namings_eq_map, List.filterMap_map, ← List.filterMap_eq_map,
    List.filterMap_filter]
  congr 1
  funext label
  simpa using (settles sameSize label).error?_naming

theorem namings_of_fault (table : LabelTable) {access : Access}
    {fault : Fault} (faulted : access.outcome = .error fault) :
    table.namings [access] = [] := by
  simp [namings, Access.sample?, faulted, Except.toOption]

theorem namings_of_sample (table : LabelTable) {access : Access}
    {sample : Sample} (returned : access.outcome = .ok sample) :
    table.namings [access] = [table.naming sample.label] := by
  simp [namings, Access.sample?, returned, Except.toOption]

end LabelTable

theorem Access.sample?_eq_some_iff {access : Access} {sample : Sample} :
    access.sample? = some sample ↔ access.outcome = .ok sample := by
  unfold sample?
  cases access.outcome with
  | error fault =>
      simp [Except.toOption]
  | ok made =>
      simp [Except.toOption]

theorem mem_allLabels_iff {accesses : List Access} {label : Label} :
    label ∈ Survey.allLabels accesses ↔
      ∃ access, access ∈ accesses ∧
        ∃ sample, access.outcome = .ok sample ∧ sample.label = label := by
  simp only [Survey.allLabels, List.mem_filterMap, Option.map_eq_some_iff,
    Access.sample?_eq_some_iff]

variable {σ τ : Type}

theorem AccessRun.label_of_sample {dataset after : Dataset σ τ}
    {drawn : Label} {access : Access} {sample : Sample}
    (run : AccessRun dataset drawn access after)
    (returned : access.outcome = .ok sample) :
    (Transform.apply dataset.labelTransform drawn).1 = .ok sample.label := by
  cases run with
  | emptyRange =>
      cases returned
  | imageFault =>
      cases returned
  | labelFault =>
      cases returned
  | sample _ _ labelHandled =>
      cases returned
      rw [labelHandled.apply_eq]

namespace Dataset

/-- How an access and the look-up behind it go together, on the collection as the
access finds it: without a fault of one of the functions, the answer of the
function on labels to the drawn label is looked up, and with one nothing is. -/
structure NamedAccess (dataset : Dataset σ τ) (table : LabelTable)
    (drawn : Label) (access : Access) : Prop where
  tabled : dataset.labelTable? = some table
  skipped :
    table.namings [access] = [] ↔
      (∃ fault,
        Transform.FaultsOn dataset.imageTransform ⟨3, 32, 32⟩ fault) ∨
      (∃ fault,
        Transform.FaultsOn dataset.labelTransform drawn fault)
  named :
    ∀ sample, access.outcome = .ok sample →
      (Transform.apply dataset.labelTransform drawn).1 = .ok sample.label ∧
      table.namings [access] = [table.naming sample.label] ∧
      table.Settles dataset.classes sample.label

theorem namedAccess {dataset : Dataset σ τ} {table : LabelTable}
    (tabled : dataset.labelTable? = some table) (drawn : Label) :
    dataset.NamedAccess table drawn (dataset.access drawn).1 := by
  have run := dataset.access_run drawn
  have sameSize := LabelTable.size_of_forClasses? tabled
  have someClasses : dataset.classes ≠ 0 := by
    intro noClasses
    rw [labelTable?, noClasses] at tabled
    cases tabled
  refine ⟨tabled, ?_, ?_⟩
  · have faults_iff := run.faults_iff
    simp only [someClasses, false_or] at faults_iff
    rw [← faults_iff]
    cases outcome : (dataset.access drawn).1.outcome with
    | error fault =>
        simp [table.namings_of_fault outcome]
    | ok sample =>
        simp [table.namings_of_sample outcome]
  · intro sample returned
    exact
      ⟨run.label_of_sample returned, table.namings_of_sample returned,
        LabelTable.settles sameSize sample.label⟩

/-- Without a function on labels, what is returned has been drawn. -/
theorem mem_draws_of_returned {dataset : Dataset σ τ} {draws : List Label}
    (noFunction : dataset.labelTransform = none) {label : Label}
    (returned : label ∈ Survey.allLabels (dataset.accessAll draws).1) :
    label ∈ draws := by
  obtain ⟨access, member, sample, isSample, rfl⟩ :=
    mem_allLabels_iff.mp returned
  obtain ⟨number, there⟩ := List.mem_iff_getElem?.mp member
  rw [getElem?_accessAll, Option.map_eq_some_iff] at there
  obtain ⟨drawn, drawnThere, rfl⟩ := there
  let reached := (dataset.accessAll (draws.take number)).2
  have answered := (reached.access_run drawn).label_of_sample isSample
  have stillNoFunction : reached.labelTransform = none := by
    rw [labelTransform_accessAll, noFunction]
    rfl
  rw [stillNoFunction] at answered
  cases answered
  exact List.mem_of_getElem? drawnThere

end Dataset

/-- In every sequence of accesses, the look-ups of the returned labels fail for
those labels that belong to no class, and each failure carries the label that was
returned.  Where nothing changes the drawn labels, every look-up finds its
entry. -/
theorem drawn_labels_named {dataset : Dataset σ τ} {table : LabelTable}
    (tabled :
      dataset.classes = 10 ∧ table = .cifar10 ∨
        dataset.classes = 100 ∧ table = .cifar100)
    (draws : List Label) :
    let accesses := (dataset.accessAll draws).1
    let returned := Survey.allLabels accesses
    let namings := table.namings accesses
    accesses.length = draws.length ∧
    (∀ number drawn access,
      draws[number]? = some drawn → accesses[number]? = some access →
        (dataset.accessAll (draws.take number)).2.NamedAccess table drawn
          access) ∧
    (dataset.labelTransform = none →
      (∀ drawn, drawn ∈ draws → drawn < dataset.classes) →
        ∀ label, label ∈ returned →
          ∃ name, table.names[label.toNat]? = some name ∧
            table.name label = .ok name ∧ table.name? label = .ok name) ∧
    namings = accesses.flatMap (fun access => table.namings [access]) ∧
    namings.filterMap Naming.fault? =
      (returned.filter fun label => dataset.classes ≤ label).map
        (fun label =>
          .indexOutOfBounds dataset.classes.toNat label.toNat) ∧
    namings.filterMap Naming.error? =
      (returned.filter fun label => dataset.classes ≤ label).map
        (fun label => { found := label, max := dataset.classes }) := by
  intro accesses returned namings
  have held : dataset.labelTable? = some table :=
    LabelTable.forClasses?_eq_some_iff.mpr tabled
  have sameSize := LabelTable.size_of_forClasses? held
  refine ⟨dataset.length_accessAll draws, ?_, ?_,
    table.namings_eq_flatMap accesses,
    LabelTable.filterMap_fault?_namings sameSize accesses,
    LabelTable.filterMap_error?_namings sameSize accesses⟩
  · intro number drawn access drawnThere accessThere
    let reached := (dataset.accessAll (draws.take number)).2
    have stillHeld : reached.labelTable? = some table := by
      rw [Dataset.labelTable?, (dataset.used_accessAll _).classes]
      exact held
    rw [dataset.getElem?_accessAll, drawnThere] at accessThere
    cases accessThere
    exact Dataset.namedAccess stillHeld drawn
  · intro noFunction below label member
    have drawn := Dataset.mem_draws_of_returned noFunction member
    exact (LabelTable.settles sameSize label).entry (below label drawn)

/-- A function on labels that shifts them further with each call and faults on one
of them, behind a function on images that tires: of five accesses, three return a
label, and two of these labels belong to no class. -/
theorem drawn_labels_named_of_shifting_function :
    let shifting : Transform Nat Label :=
      { state := 0
        respond := fun calls given =>
          (if given = 3 then .error (.raised "three")
            else .ok (given + UInt64.ofNat (4 * calls)), calls + 1) }
    let plain : Dataset Nat Nat :=
      { classes := 10
        root := { bytes := [] }
        split := .train
        download := false
        imageTransform := some (Transform.tiring 4)
        labelTransform := none }
    let dataset : Dataset Nat Nat :=
      { plain with labelTransform := some shifting }
    let draws : List Label := [1, 3, 7, 2, 5]
    let namings := LabelTable.cifar10.namings (dataset.accessAll draws).1
    (dataset.classes = 10 ∧ plain.classes = 10) ∧
    namings.filterMap Naming.error? =
      [{ found := 15, max := 10 }, { found := 14, max := 10 }] ∧
    (draws[2]? = some 7 ∧
      ∃ access, (dataset.accessAll draws).1[2]? = some access ∧
        (dataset.accessAll (draws.take 2)).2.NamedAccess .cifar10 7 access) ∧
    plain.labelTransform = none ∧
    (∀ drawn, drawn ∈ draws → drawn < plain.classes) ∧
    ∀ label, label ∈ Survey.allLabels (plain.accessAll draws).1 →
      ∃ name, LabelTable.cifar10.names[label.toNat]? = some name ∧
        LabelTable.cifar10.name label = .ok name ∧
        LabelTable.cifar10.name? label = .ok name := by
  intro shifting plain dataset draws namings
  have ofShifting :=
    @drawn_labels_named _ _ dataset _ (Or.inl ⟨rfl, rfl⟩) draws
  have ofPlain :=
    @drawn_labels_named _ _ plain _ (Or.inl ⟨rfl, rfl⟩) draws
  have drawnBelow : ∀ drawn, drawn ∈ draws → drawn < plain.classes := by
    simp [draws, plain]
  refine
    ⟨⟨rfl, rfl⟩, ?_,
      ⟨rfl, _, rfl, ofShifting.2.1 2 7 _ rfl rfl⟩, rfl, drawnBelow,
      ofPlain.2.2.1 rfl drawnBelow⟩
  rw [ofShifting.2.2.2.2.2]
  decide +kernel

end BlankImages
