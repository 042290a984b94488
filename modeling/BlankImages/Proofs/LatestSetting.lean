import BlankImages.Dataset.Builder
import BlankImages.Proofs.AccessSequence

/-!
# The latest setting decides

A builder takes settings in any order and number.  For each kind of setting only
the latest one counts, whatever stands between and behind the others; without
one the default stays.  So an earlier setting of a kind may be left out, and the
short way of making a collection is one choice of settings among many.
-/

namespace BlankImages

variable {σ τ : Type}

/-! ## Kinds of settings -/

inductive SettingKind where
  | train
  | download
  | imageTransform
  | labelTransform
  deriving DecidableEq, Repr

namespace Setting

def kind : Setting σ τ → SettingKind
  | .train _ => .train
  | .download _ => .download
  | .imageTransform _ => .imageTransform
  | .labelTransform _ => .labelTransform

def train? : Setting σ τ → Option Bool
  | .train value => some value
  | _ => none

def download? : Setting σ τ → Option Bool
  | .download value => some value
  | _ => none

def imageTransform? : Setting σ τ → Option (Transform σ Image)
  | .imageTransform function => some function
  | _ => none

def labelTransform? : Setting σ τ → Option (Transform τ Label)
  | .labelTransform function => some function
  | _ => none

/-- What `read` reads are the settings of one kind. -/
def Reads {α : Type} (read : Setting σ τ → Option α) (kind : SettingKind) :
    Prop :=
  ∀ setting, (read setting).isSome ↔ setting.kind = kind

theorem reads_train : Reads (σ := σ) (τ := τ) train? .train := by
  intro setting
  cases setting <;> simp [train?, Setting.kind]

theorem reads_download : Reads (σ := σ) (τ := τ) download? .download := by
  intro setting
  cases setting <;> simp [download?, Setting.kind]

theorem reads_imageTransform :
    Reads (σ := σ) (τ := τ) imageTransform? .imageTransform := by
  intro setting
  cases setting <;> simp [imageTransform?, Setting.kind]

theorem reads_labelTransform :
    Reads (σ := σ) (τ := τ) labelTransform? .labelTransform := by
  intro setting
  cases setting <;> simp [labelTransform?, Setting.kind]

/-! ## The latest value of a kind -/

def latest {α : Type} (read : Setting σ τ → Option α)
    (settings : List (Setting σ τ)) : Option α :=
  (settings.filterMap read).getLast?

section

variable {α : Type} (read : Setting σ τ → Option α)

theorem latest_append (first second : List (Setting σ τ)) :
    latest read (first ++ second) =
      (latest read second).or (latest read first) := by
  rw [latest, List.filterMap_append, List.getLast?_append]
  rfl

theorem latest_cons (setting : Setting σ τ) (rest : List (Setting σ τ)) :
    latest read (setting :: rest) = (latest read rest).or (read setting) := by
  have split := latest_append read [setting] rest
  rw [List.singleton_append] at split
  rw [split]
  congr 1
  cases present : read setting with
  | none =>
      simp [latest, present]
  | some value =>
      simp [latest, present]

theorem latest_eq_none_iff (settings : List (Setting σ τ)) :
    latest read settings = none ↔
      ∀ setting, setting ∈ settings → read setting = none := by
  rw [latest, List.getLast?_eq_none_iff, List.filterMap_eq_nil_iff]

theorem latest_without {kind : SettingKind} (readsKind : Reads read kind)
    {before after : List (Setting σ τ)} {replaced newer : Setting σ τ}
    (member : newer ∈ after) (sameKind : newer.kind = replaced.kind) :
    latest read (before ++ replaced :: after) =
      latest read (before ++ after) := by
  rw [latest_append, latest_append, latest_cons]
  -- If `read` reads the replaced setting, it reads the newer one as well, and
  -- then the latest value is found behind the replaced setting.
  cases present : read replaced with
  | none =>
      rw [Option.or_none]
  | some value =>
      have replacedKind : replaced.kind = kind := by
        apply (readsKind replaced).mp
        rw [present]
        rfl
      have reads : (read newer).isSome :=
        (readsKind newer).mpr (sameKind.trans replacedKind)
      have laterPresent : latest read after ≠ none := by
        intro absent
        have silent :=
          (latest_eq_none_iff read after).mp absent newer member
        rw [silent] at reads
        cases reads
      obtain ⟨latestValue, found⟩ := Option.ne_none_iff_exists'.mp laterPresent
      rw [found]
      rfl

end

/-- Settings that agree on the latest value of every kind. -/
structure SameLatest (left right : List (Setting σ τ)) : Prop where
  train : latest train? left = latest train? right
  download : latest download? left = latest download? right
  imageTransform : latest imageTransform? left = latest imageTransform? right
  labelTransform : latest labelTransform? left = latest labelTransform? right

/-- Leaving out a setting that a later one of its kind replaces. -/
theorem sameLatest_without {before after : List (Setting σ τ)}
    {replaced newer : Setting σ τ}
    (member : newer ∈ after) (sameKind : newer.kind = replaced.kind) :
    SameLatest (before ++ replaced :: after) (before ++ after) where
  train := latest_without train? reads_train member sameKind
  download := latest_without download? reads_download member sameKind
  imageTransform :=
    latest_without imageTransform? reads_imageTransform member sameKind
  labelTransform :=
    latest_without labelTransform? reads_labelTransform member sameKind

/-- Settings that choose a half and nothing else: they set no function and ask
for no download in the end. -/
structure OnlyChoose (settings : List (Setting σ τ)) (train : Bool) : Prop where
  train :
    latest train? settings = some train ∨
      (latest train? settings = none ∧ train = true)
  download : latest download? settings ≠ some true
  imageTransform :
    ∀ setting, setting ∈ settings → setting.imageTransform? = none
  labelTransform :
    ∀ setting, setting ∈ settings → setting.labelTransform? = none

end Setting

/-! ## Builders -/

namespace Builder

open Setting

theorem set_eq (builder : Builder σ τ) (setting : Setting σ τ) :
    builder.set setting =
      { builder with
        train := setting.train?.getD builder.train
        download := setting.download?.getD builder.download
        imageTransform := setting.imageTransform?.or builder.imageTransform
        labelTransform := setting.labelTransform?.or builder.labelTransform } := by
  cases setting with
  | train value =>
      rfl
  | download value =>
      rfl
  | imageTransform function =>
      rfl
  | labelTransform function =>
      rfl

/-- Every field has the latest value of its kind, or the one that it had. -/
theorem setAll_eq (builder : Builder σ τ) (settings : List (Setting σ τ)) :
    builder.setAll settings =
      { builder with
        train := (latest train? settings).getD builder.train
        download := (latest download? settings).getD builder.download
        imageTransform :=
          (latest imageTransform? settings).or builder.imageTransform
        labelTransform :=
          (latest labelTransform? settings).or builder.labelTransform } := by
  induction settings generalizing builder with
  | nil =>
      rfl
  | cons setting rest inductionHypothesis =>
      rw [setAll_cons, inductionHypothesis, set_eq]
      simp only [latest_cons, Option.getD_or, Option.or_assoc]

theorem build_setAll (classes : Word) (root : Root)
    (settings : List (Setting σ τ)) :
    ((start classes root).setAll settings).build =
      { classes, root
        split := Split.ofTrainFlag ((latest train? settings).getD true)
        download := (latest download? settings).getD false
        imageTransform := latest imageTransform? settings
        labelTransform := latest labelTransform? settings } := by
  rw [setAll_eq]
  simp only [build, split, start, Option.or_none]

theorem events_setAll (classes : Word) (root : Root)
    (settings : List (Setting σ τ)) :
    ((start classes root).setAll settings).events =
      .building classes root.text
          (Split.ofTrainFlag ((latest train? settings).getD true)) ::
        if latest download? settings = some true then [.downloadIgnored]
        else [] := by
  rw [setAll_eq]
  simp only [events, split, start]
  congr 1
  cases latest download? settings with
  | none =>
      rfl
  | some value =>
      cases value <;> rfl

def result (builder : Builder σ τ) : Dataset σ τ × List Event :=
  (builder.build, builder.events)

theorem result_setAll_congr (classes : Word) (root : Root)
    {left right : List (Setting σ τ)} (same : SameLatest left right) :
    ((start classes root).setAll left).result =
      ((start classes root).setAll right).result := by
  unfold result
  rw [build_setAll, build_setAll, events_setAll, events_setAll,
    same.train, same.download, same.imageTransform, same.labelTransform]

theorem result_setAll_of_onlyChoose (classes : Word) (root : Root)
    {settings : List (Setting σ τ)} {train : Bool}
    (only : OnlyChoose settings train) :
    ((start classes root).setAll settings).result =
      (plain classes root train).result := by
  have chosen : (latest train? settings).getD true = train := by
    rcases only.train with written | ⟨absent, defaulted⟩
    · rw [written]
      rfl
    · rw [absent, defaulted]
      rfl
  have noDownload : (latest download? settings).getD false = false := by
    have notTrue := only.download
    cases found : latest download? settings with
    | none =>
        rfl
    | some value =>
        cases value with
        | false =>
            rfl
        | true =>
            exact False.elim (notTrue found)
  have noImageTransform : latest imageTransform? settings = none :=
    (latest_eq_none_iff _ settings).mpr only.imageTransform
  have noLabelTransform : latest labelTransform? settings = none :=
    (latest_eq_none_iff _ settings).mpr only.labelTransform
  unfold result
  rw [build_setAll, events_setAll, chosen, noDownload, noImageTransform,
    noLabelTransform, if_neg only.download]
  rfl

end Builder

/-- The latest setting of each kind decides what is built and recorded, and the
test half is read only if the latest choice is against the training half.  An
earlier setting may be left out, and the calls on the collection that is built are
calls of the latest functions. -/
theorem result_decided_by_latest (classes : Word) (root : Root) :
    (∀ settings : List (Setting σ τ),
      let builder := (Builder.start classes root).setAll settings
      let half : Split :=
        if Setting.latest Setting.train? settings = some false then .test
        else .train
      builder.build =
        { classes, root
          split := half
          download :=
            (Setting.latest Setting.download? settings).getD false
          imageTransform := Setting.latest Setting.imageTransform? settings
          labelTransform := Setting.latest Setting.labelTransform? settings } ∧
      builder.build.isTrain =
        (Setting.latest Setting.train? settings).getD true ∧
      builder.events =
        .building classes root.text half ::
          (if Setting.latest Setting.download? settings = some true then
            [.downloadIgnored]
          else []) ∧
      builder.events.map Event.message =
        "building synthetic cifar dataset" ::
          (if Setting.latest Setting.download? settings = some true then
            ["download requested, ignoring for synthetic dataset"]
          else []) ∧
      ∀ draws : List Label,
        (builder.build.accessAll draws).2.imageTransform =
          (Setting.latest Setting.imageTransform? settings).map
            (fun newest =>
              (newest.callAll
                ((builder.build.accessAll draws).1.flatMap
                  Access.images)).2) ∧
        (builder.build.accessAll draws).2.labelTransform =
          (Setting.latest Setting.labelTransform? settings).map
            (fun newest =>
              (newest.callAll
                ((builder.build.accessAll draws).1.flatMap
                  Access.labels)).2)) ∧
    (∀ (before after : List (Setting σ τ)) (replaced newer : Setting σ τ),
      newer ∈ after → newer.kind = replaced.kind →
        ((Builder.start classes root).setAll
            (before ++ replaced :: after)).result =
          ((Builder.start classes root).setAll (before ++ after)).result) ∧
    (∀ left right : List (Setting σ τ), Setting.SameLatest left right →
      ((Builder.start classes root).setAll left).result =
        ((Builder.start classes root).setAll right).result) ∧
    (∀ (settings : List (Setting σ τ)) (train : Bool),
      Setting.OnlyChoose settings train →
        ((Builder.start classes root).setAll settings).result =
          (Builder.plain classes root train).result) := by
  refine ⟨?_, ?_, ?_, ?_⟩
  · intro settings builder half
    have built := Builder.build_setAll classes root settings
    have recorded := Builder.events_setAll classes root settings
    refine ⟨?_, ?_, ?_, ?_, ?_⟩
    · rw [built, Split.ofTrainFlag_getD]
    · rw [built, Dataset.isTrain, Split.isTrain_ofTrainFlag]
    · rw [recorded, Split.ofTrainFlag_getD]
    · rw [recorded, List.map_cons, apply_ite (List.map Event.message)]
      rfl
    intro draws
    constructor
    · rw [Dataset.imageTransform_accessAll]
      simp only [builder, built]
    · rw [Dataset.labelTransform_accessAll]
      simp only [builder, built]
  · intro before after replaced newer member sameKind
    exact Builder.result_setAll_congr classes root
      (Setting.sameLatest_without member sameKind)
  · intro left right same
    exact Builder.result_setAll_congr classes root same
  · intro settings train only
    exact Builder.result_setAll_of_onlyChoose classes root only

/-- A replaced function that would fault, the same settings in another order,
and a download that is called off, each at a path that is not UTF-8. -/
theorem result_of_some_settings :
    let root : Root := { bytes := [0x61, 0xFF] }
    let replaced : Setting Unit Unit :=
      .imageTransform (Transform.pure fun _ => .error (.raised "replaced"))
    let newer : Setting Unit Unit := .imageTransform (Transform.pure .ok)
    (newer ∈ [.train false, newer] ∧ newer.kind = replaced.kind ∧
      ((Builder.start 10 root).setAll
          ([.download true] ++ replaced :: [.train false, newer])).result =
        ((Builder.start 10 root).setAll
          ([.download true] ++ [.train false, newer])).result) ∧
    (Setting.SameLatest [.train false, newer, .train true, .download true]
        [.download true, newer, .train true] ∧
      ((Builder.start 10 root).setAll
          [.train false, newer, .train true, .download true]).result =
        ((Builder.start 10 root).setAll
          [.download true, newer, .train true]).result) ∧
    (Setting.OnlyChoose
        ([.download true, .train false, .download false] :
          List (Setting Unit Unit)) false ∧
      ((Builder.start 10 root).setAll
          ([.download true, .train false, .download false] :
            List (Setting Unit Unit))).result =
        (Builder.plain 10 root false).result) := by
  intro root replaced newer
  have member : newer ∈ [.train false, newer] := by
    simp
  have sameKind : newer.kind = replaced.kind := rfl
  have sameLatest :
      Setting.SameLatest [.train false, newer, .train true, .download true]
        [.download true, newer, .train true] :=
    ⟨rfl, rfl, rfl, rfl⟩
  have onlyChoose :
      Setting.OnlyChoose
        ([.download true, .train false, .download false] :
          List (Setting Unit Unit)) false :=
    ⟨Or.inl rfl, by decide, by simp [Setting.imageTransform?],
      by simp [Setting.labelTransform?]⟩
  have decided := result_decided_by_latest (σ := Unit) (τ := Unit) 10 root
  exact
    ⟨⟨member, sameKind,
        decided.2.1 [.download true] [.train false, newer] replaced newer
          member sameKind⟩,
      ⟨sameLatest, decided.2.2.1 _ _ sameLatest⟩,
      ⟨onlyChoose, decided.2.2.2 _ false onlyChoose⟩⟩

end BlankImages
