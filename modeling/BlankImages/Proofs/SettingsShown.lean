import BlankImages.Dataset.Description
import BlankImages.Proofs.RecordReading

/-!
# What the texts of collections and builders show

The two texts of a collection show its root path, its half, its flag and which
functions it has, and nothing else: they are equal exactly when these settings
are, whatever the bytes of the root paths and whatever the functions do.  No
root path can imitate another field, since its closing quote is found without
knowing what stands behind it, and none can spread over lines of its own.
-/

namespace BlankImages

open FieldText (IsBare)
open Record (Comparable OneLine SameKind lineCount newlineCount)

/-! ## The kinds of fields -/

theorem Root.quoted_inj {left right : Root} :
    left.quoted = right.quoted ↔ left.bytes = right.bytes := by
  constructor
  · intro same
    have sameChars := congrArg (fun text => text.toList ++ []) same
    exact (Quoted.write_append_inj sameChars).1
  · intro same
    rw [Root.quoted, Root.quoted, same]

theorem Root.newlineCount_quoted (root : Root) :
    newlineCount root.quoted = 0 := by
  have noNewline := (Quoted.spelled_body root.bytes).newline_notMem
  refine List.count_eq_zero.mpr ?_
  rw [Root.quoted, Quoted.toList_write]
  simp [noNewline]

theorem Split.text_inj {left right : Split} :
    left.text = right.text ↔ left = right := by
  cases left <;> cases right <;> decide

theorem Split.isBare_text (split : Split) : IsBare split.text := by
  cases split <;> decide

theorem Split.newlineCount_text (split : Split) :
    newlineCount split.text = 0 := by
  cases split <;> rfl

namespace Record

theorem flag_inj {label : String} {left right : Bool} :
    flag label left = flag label right ↔ left = right := by
  cases left <;> cases right <;> simp [flag]

theorem comparable_flag (label : String) (left right : Bool) :
    Comparable (flag label left) (flag label right) := by
  refine ⟨rfl, FieldText.toldApart_bare ?_ ?_⟩
  · cases left <;> decide
  · cases right <;> decide

theorem oneLine_plain {label text : String}
    (labelOneLine : newlineCount label = 0)
    (textOneLine : newlineCount text = 0) :
    OneLine (label, .plain text) where
  label := labelOneLine
  plain := by
    rintro shown ⟨⟩
    exact textOneLine
  content := by
    rintro shown ⟨⟩

theorem oneLine_flag {label : String} (value : Bool)
    (labelOneLine : newlineCount label = 0) :
    OneLine (flag label value) := by
  cases value with
  | true =>
      exact oneLine_plain labelOneLine rfl
  | false =>
      exact oneLine_plain labelOneLine rfl

end Record

namespace Transform

variable {σ σ' α α' : Type}
variable {left : Option (Transform σ α)} {right : Option (Transform σ' α')}

/-- The field of a function shows its presence alone. -/
theorem field_inj {label : String} :
    field label left = field label right ↔ left.isSome = right.isSome := by
  cases left <;> cases right <;> simp [field]

theorem comparable_field (label : String) :
    Comparable (field label left) (field label right) := by
  refine ⟨rfl, FieldText.toldApart_slot ?_⟩
  intro first firstShown second secondShown
  obtain ⟨_, _, rfl⟩ := Option.map_eq_some_iff.mp firstShown
  obtain ⟨_, _, rfl⟩ := Option.map_eq_some_iff.mp secondShown
  rfl

theorem oneLine_field {label : String} (slot : Option (Transform σ α))
    (labelOneLine : newlineCount label = 0) :
    OneLine (field label slot) := by
  refine ⟨labelOneLine, ?_, ?_⟩
  · rintro text ⟨⟩
  · intro text shown
    obtain ⟨_, _, rfl⟩ :=
      Option.map_eq_some_iff.mp (FieldText.slot.inj shown)
    rfl

end Transform

/-! ## Settings that agree -/

variable {σ τ σ' τ' : Type}

/-- Two collections that agree in what their texts show.  Of the functions that
is only their presence, and the number of classes is not shown at all. -/
structure Dataset.SameSettings (left : Dataset σ τ) (right : Dataset σ' τ') :
    Prop where
  root : left.root.bytes = right.root.bytes
  split : left.split = right.split
  download : left.download = right.download
  imageFunction : left.imageTransform.isSome = right.imageTransform.isSome
  labelFunction : left.labelTransform.isSome = right.labelTransform.isSome

structure Builder.SameSettings (left : Builder σ τ) (right : Builder σ' τ') :
    Prop where
  root : left.root.bytes = right.root.bytes
  train : left.train = right.train
  download : left.download = right.download
  imageFunction : left.imageTransform.isSome = right.imageTransform.isSome
  labelFunction : left.labelTransform.isSome = right.labelTransform.isSome

namespace Dataset

theorem sameKind_record (left : Dataset σ τ) (right : Dataset σ' τ') :
    SameKind left.record right.record where
  name := rfl
  fields := by
    have root := FieldText.toldApart_quoted left.root.bytes right.root.bytes
    have split :=
      FieldText.toldApart_bare left.split.isBare_text right.split.isBare_text
    exact
      List.Forall₂.cons ⟨rfl, root⟩
        (List.Forall₂.cons ⟨rfl, split⟩
          (List.Forall₂.cons (Record.comparable_flag _ _ _)
            (List.Forall₂.cons (Transform.comparable_field _)
              (List.Forall₂.cons (Transform.comparable_field _)
                List.Forall₂.nil))))

theorem fields_record_eq_iff (left : Dataset σ τ) (right : Dataset σ' τ') :
    left.record.fields = right.record.fields ↔ left.SameSettings right := by
  simp only [record, List.cons.injEq, Prod.mk.injEq, FieldText.plain.injEq,
    true_and, and_true, Root.quoted_inj, Split.text_inj, Record.flag_inj,
    Transform.field_inj]
  constructor
  · rintro ⟨root, split, download, imageFunction, labelFunction⟩
    exact ⟨root, split, download, imageFunction, labelFunction⟩
  · rintro ⟨root, split, download, imageFunction, labelFunction⟩
    exact ⟨root, split, download, imageFunction, labelFunction⟩

theorem lineCount_pretty_record (dataset : Dataset σ τ) :
    lineCount dataset.record.pretty =
      7 + 2 * (dataset.imageTransform.isSome.toNat +
        dataset.labelTransform.isSome.toNat) := by
  have nameOneLine : newlineCount dataset.record.name = 0 := by
    change newlineCount "SyntheticCifar" = 0
    rfl
  have oneLine : ∀ field ∈ dataset.record.fields, OneLine field := by
    simp only [record, List.forall_mem_cons]
    refine ⟨?_, ?_, ?_, ?_, ?_, ?_⟩
    · exact Record.oneLine_plain rfl dataset.root.newlineCount_quoted
    · exact Record.oneLine_plain rfl dataset.split.newlineCount_text
    · exact Record.oneLine_flag _ rfl
    · exact Transform.oneLine_field _ rfl
    · exact Transform.oneLine_field _ rfl
    · exact List.forall_mem_nil _
  have height (label : String) {σ α : Type} (slot : Option (Transform σ α)) :
      Record.fieldLines (Transform.field label slot).2 =
        1 + 2 * slot.isSome.toNat := by
    cases slot <;> rfl
  rw [Record.lineCount_pretty nameOneLine oneLine]
  simp only [record, Record.fieldsLines, height]
  simp only [Record.fieldLines, Record.flag]
  omega

end Dataset

namespace Builder

theorem sameKind_record (left : Builder σ τ) (right : Builder σ' τ') :
    SameKind left.record right.record where
  name := rfl
  fields := by
    have root := FieldText.toldApart_quoted left.root.bytes right.root.bytes
    exact
      List.Forall₂.cons ⟨rfl, root⟩
        (List.Forall₂.cons (Record.comparable_flag _ _ _)
          (List.Forall₂.cons (Record.comparable_flag _ _ _)
            (List.Forall₂.cons (Transform.comparable_field _)
              (List.Forall₂.cons (Transform.comparable_field _)
                List.Forall₂.nil))))

theorem fields_record_eq_iff (left : Builder σ τ) (right : Builder σ' τ') :
    left.record.fields = right.record.fields ↔ left.SameSettings right := by
  simp only [record, List.cons.injEq, Prod.mk.injEq, FieldText.plain.injEq,
    true_and, and_true, Root.quoted_inj, Record.flag_inj, Transform.field_inj]
  constructor
  · rintro ⟨root, train, download, imageFunction, labelFunction⟩
    exact ⟨root, train, download, imageFunction, labelFunction⟩
  · rintro ⟨root, train, download, imageFunction, labelFunction⟩
    exact ⟨root, train, download, imageFunction, labelFunction⟩

end Builder

end BlankImages
