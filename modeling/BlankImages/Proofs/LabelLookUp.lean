import BlankImages.Proofs.LabelNaming
import BlankImages.Session

/-!
# Looking up labels

A label is looked up in two ways, one that faults and one that answers with an
error.  Both find the entry of every label below the number of classes, and both
tell the label and that number where there is none.  Since the entries of a table
are distinct and an error carries its label, the second way tells all labels
apart.  A collection has a part in this only through its number of classes.
-/

namespace BlankImages

namespace LabelTable

variable {table : LabelTable}

/-! ## Telling labels apart -/

theorem nodup_names {classes : Word}
    (tabled :
      classes = 10 ∧ table = .cifar10 ∨ classes = 100 ∧ table = .cifar100) :
    table.names.Nodup := by
  rcases tabled with ⟨_, rfl⟩ | ⟨_, rfl⟩
  · decide +kernel
  · decide +kernel

theorem name?_inj (distinct : table.names.Nodup) {left right : Label} :
    table.name? left = table.name? right ↔ left = right := by
  constructor
  · intro same
    -- Equal names are at one place of the table; an error shows its label.
    cases looked : table.name? right with
    | ok name =>
        rw [looked] at same
        have leftEntry := name?_eq_ok_iff.mp same
        have rightEntry := name?_eq_ok_iff.mp looked
        have leftWithin := lt_size_of_getElem? leftEntry
        rw [← rightEntry] at leftEntry
        have samePlace :=
          (List.getElem?_inj leftWithin distinct).mp leftEntry
        exact UInt64.toNat_inj.mp samePlace
    | error error =>
        rw [looked] at same
        have leftFound := found_of_name?_eq_error same
        have rightFound := found_of_name?_eq_error looked
        exact leftFound.symm.trans rightFound
  · intro same
    rw [same]

end LabelTable

/-! ## On a collection -/

variable {σ τ : Type}

/-- A session looks a label up in the table of its collection and stays as it is. -/
theorem Session.obey_name {session : Session σ τ} {dataset : Dataset σ τ}
    {table : LabelTable} (held : session.dataset? = some dataset)
    (tabled : dataset.labelTable? = some table) (draws : Draws)
    (label : Label) :
    session.obey draws (.name label) =
      (.named (table.naming label), session) := by
  cases session
  cases held
  simp only [obey, onDataset, tabled]
  rfl

/-- For both numbers of classes that have a table, the two ways of looking up a
label give its entry exactly below the number of classes, and fail exactly from
there on, with the label and that number in the fault and in the error.  No two
labels are answered alike by the way that answers with errors.  Whatever
collection with these classes a session holds, these are its answers. -/
theorem look_ups_agree_and_tell_apart {classes : Word} {table : LabelTable}
    (tabled :
      classes = 10 ∧ table = .cifar10 ∨ classes = 100 ∧ table = .cifar100) :
    table.size = classes.toNat ∧
    (∀ label name,
      (table.name label = .ok name ↔
        label < classes ∧ table.names[label.toNat]? = some name) ∧
      (table.name? label = .ok name ↔
        label < classes ∧ table.names[label.toNat]? = some name)) ∧
    (∀ label fault, table.name label = .error fault ↔
      classes ≤ label ∧
        fault = .indexOutOfBounds classes.toNat label.toNat) ∧
    (∀ label error, table.name? label = .error error ↔
      classes ≤ label ∧ error = { found := label, max := classes }) ∧
    (∀ left right, table.name? left = table.name? right ↔ left = right) ∧
    (∀ (dataset : Dataset σ τ) (session : Session σ τ) (draws : Draws)
        (label : Label),
      dataset.classes = classes → session.dataset? = some dataset →
        session.obey draws (.name label) =
          (.named { name := table.name label, name? := table.name? label },
            session)) ∧
    ∀ size index, (Fault.indexOutOfBounds size index).message =
      "index out of bounds: the len is " ++ toString size ++
        " but the index is " ++ toString index := by
  have made : LabelTable.forClasses? classes = some table :=
    LabelTable.forClasses?_eq_some_iff.mpr tabled
  have sameSize := LabelTable.size_of_forClasses? made
  have below_of_entry {label : Label} {name : String}
      (entry : table.names[label.toNat]? = some name) : label < classes := by
    rw [UInt64.lt_iff_toNat_lt, ← sameSize]
    exact LabelTable.lt_size_of_getElem? entry
  refine ⟨sameSize, ?_,
    fun label => (LabelTable.settles sameSize label).fault_iff,
    fun label => (LabelTable.settles sameSize label).error_iff,
    fun _ _ => LabelTable.name?_inj (LabelTable.nodup_names tabled), ?_,
    fun _ _ => rfl⟩
  · intro label name
    rw [LabelTable.name_eq_ok_iff, LabelTable.name?_eq_ok_iff]
    constructor <;>
      exact ⟨fun entry => ⟨below_of_entry entry, entry⟩, And.right⟩
  · intro dataset session draws label sameClasses held
    have datasetTabled : dataset.labelTable? = some table := by
      rw [Dataset.labelTable?, sameClasses]
      exact made
    exact Session.obey_name held datasetTabled draws label

/-- The last entry of the longer table and the first label behind it, on a
collection with every setting away from its default. -/
theorem look_ups_agree_at_the_end :
    let dataset : Dataset Nat Nat :=
      { classes := 100
        root := { bytes := [0xFF] }
        split := .test
        download := true
        imageTransform := some (Transform.tiring 4)
        labelTransform := some (Transform.tiring 2) }
    let session : Session Nat Nat :=
      { classes := 100
        builder? := none
        dataset? := some dataset
        drawn := 7 }
    let draws := Draws.ofSeed 7 100
    LabelTable.cifar100.names[99]? = some "worm" ∧
      LabelTable.cifar100.name 99 = .ok "worm" ∧
      LabelTable.cifar100.name? 99 = .ok "worm" ∧
      LabelTable.cifar100.name 100 = .error (.indexOutOfBounds 100 100) ∧
      LabelTable.cifar100.name? 100 =
        .error { found := 100, max := 100 } ∧
      (∀ label,
        LabelTable.cifar100.name? label = LabelTable.cifar100.name? 99 ↔
          label = 99) ∧
      dataset.classes = 100 ∧
      session.dataset? = some dataset ∧
      session.obey draws (.name 100) =
        (.named
          { name := LabelTable.cifar100.name 100
            name? := LabelTable.cifar100.name? 100 },
          session) := by
  intro dataset session draws
  obtain ⟨_, found_iff, fault_iff, error_iff, apart, answered, _⟩ :=
    @look_ups_agree_and_tell_apart Nat Nat 100 .cifar100
      (Or.inr ⟨rfl, rfl⟩)
  have entry : LabelTable.cifar100.names[(99 : Label).toNat]? =
      some "worm" :=
    rfl
  obtain ⟨name_iff, name?_iff⟩ := found_iff 99 "worm"
  exact
    ⟨entry, name_iff.mpr ⟨by decide, entry⟩,
      name?_iff.mpr ⟨by decide, entry⟩,
      (fault_iff 100 _).mpr ⟨by decide, rfl⟩,
      (error_iff 100 _).mpr ⟨by decide, rfl⟩,
      fun label => apart label 99, rfl, rfl,
      answered dataset session draws 100 rfl rfl⟩

end BlankImages
