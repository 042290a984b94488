import BlankImages.Proofs.LatestSetting
import BlankImages.Proofs.SegmentCutting
import Mathlib.Tactic.TFAE

/-!
# The root path that is recorded

A collection keeps its root path as it is, while the record that is made when it
is built holds the path for reading.  The two agree on the paths that are valid,
and there the record tells paths apart.  On other paths the record loses
something once: from the path for reading, taken as a path, no more is lost.
-/

namespace BlankImages

open Utf8 (Cut)

namespace Root

/-! ## Texts as paths -/

theorem toList_byteArray (bytes : ByteArray) :
    bytes.toList = bytes.data.toList := by
  have loop (position : Nat) (done : List UInt8) :
      ByteArray.toList.loop bytes position done =
        done.reverse ++ bytes.data.toList.drop position := by
    fun_induction ByteArray.toList.loop bytes position done with
    | case1 position done below inductionHypothesis =>
        have inside : position < bytes.data.toList.length := by
          simpa using below
        rw [inductionHypothesis, List.drop_eq_getElem_cons inside]
        simp [ByteArray.get!, below]
    | case2 position done past =>
        have nothingLeft : bytes.data.toList.length ≤ position := by
          simpa using past
        rw [List.drop_eq_nil_of_le nothingLeft, List.append_nil]
  exact loop 0 []

theorem bytes_ofString (text : String) :
    (ofString text).bytes = Utf8.encode text.toList := by
  have written : text.toByteArray = (Utf8.encode text.toList).toByteArray := by
    calc
      text.toByteArray = (String.ofList text.toList).toByteArray := by
        rw [String.ofList_toList]
      _ = (Utf8.encode text.toList).toByteArray :=
        String.toByteArray_ofList
  change text.toByteArray.toList = _
  rw [written, toList_byteArray, List.toList_data_toByteArray]

theorem isValidUTF8_iff (root : Root) :
    root.bytes.toByteArray.IsValidUTF8 ↔ ∃ text, ofString text = root := by
  constructor
  · rintro ⟨chars, written⟩
    have sameBytes := congrArg (fun bytes => bytes.data.toList) written
    simp only [List.utf8Encode, List.toList_data_toByteArray] at sameBytes
    refine ⟨String.ofList chars, congrArg Root.mk ?_⟩
    change (ofString (String.ofList chars)).bytes = root.bytes
    rw [bytes_ofString, String.toList_ofList, sameBytes]
    rfl
  · rintro ⟨text, rfl⟩
    refine ⟨text.toList, ?_⟩
    rw [bytes_ofString]
    rfl

/-! ## Paths for reading -/

theorem toList_text (root : Root) :
    root.text.toList = (Utf8.segments root.bytes).map segmentChar :=
  String.toList_ofList

/-- A text that is taken as a path reads as itself. -/
theorem text_ofString (text : String) : (ofString text).text = text := by
  apply String.toList_inj.mp
  rw [toList_text, bytes_ofString, Utf8.segments_encode, List.map_map]
  exact List.map_id text.toList

theorem bytes_inj {left right : Root} :
    left.bytes = right.bytes ↔ left = right := by
  cases left
  cases right
  exact (Root.mk.injEq _ _).symm.to_iff

theorem ofString_text_of_isValid {root : Root}
    (valid : Utf8.isValid root.bytes = true) : ofString root.text = root := by
  rw [← bytes_inj, bytes_ofString, toList_text]
  calc
    Utf8.encode ((Utf8.segments root.bytes).map segmentChar)
        = (Utf8.segments root.bytes).flatMap
            (String.utf8EncodeChar ∘ segmentChar) := by
          rw [Utf8.encode, List.flatMap_map]
          rfl
    _ = (Utf8.segments root.bytes).flatMap Utf8.Segment.bytes := by
          apply List.flatMap_congr
          intro segment member
          have isScalar := List.all_eq_true.mp valid segment member
          cases segment with
          | scalar char =>
              rfl
          | broken bytes =>
              cases isScalar
    _ = root.bytes := Utf8.flatMap_bytes_segments root.bytes

/-- The path for reading is the path itself just when the path is valid, and
whether it is valid is seen from its segments. -/
theorem ofString_text_tfae (root : Root) :
    [ofString root.text = root,
      root.bytes.toByteArray.IsValidUTF8,
      Utf8.isValid root.bytes = true].TFAE := by
  tfae_have 1 → 2 := by
    intro same
    exact root.isValidUTF8_iff.mpr ⟨root.text, same⟩
  tfae_have 2 → 3 := by
    intro valid
    obtain ⟨text, rfl⟩ := root.isValidUTF8_iff.mp valid
    rw [bytes_ofString]
    exact Utf8.isValid_encode text.toList
  tfae_have 3 → 1 := ofString_text_of_isValid
  tfae_finish

theorem text_inj_of_valid {left right : Root}
    (leftValid : left.bytes.toByteArray.IsValidUTF8)
    (rightValid : right.bytes.toByteArray.IsValidUTF8) :
    left.text = right.text ↔ left = right := by
  constructor
  · intro sameText
    have leftSame := (left.ofString_text_tfae.out 0 1).mpr leftValid
    have rightSame := (right.ofString_text_tfae.out 0 1).mpr rightValid
    rw [← leftSame, sameText, rightSame]
  · intro same
    rw [same]

end Root

/-! ## Records of builders -/

def Event.rootText? : Event → Option String
  | .building _ root _ => some root
  | .downloadIgnored => none

namespace Builder

variable {σ τ : Type}

theorem classes_setAll (builder : Builder σ τ)
    (settings : List (Setting σ τ)) :
    (builder.setAll settings).classes = builder.classes := by
  rw [setAll_eq]

theorem root_setAll (builder : Builder σ τ) (settings : List (Setting σ τ)) :
    (builder.setAll settings).root = builder.root := by
  rw [setAll_eq]

theorem rootTexts_events (builder : Builder σ τ) :
    builder.events.filterMap Event.rootText? = [builder.root.text] := by
  rw [events]
  cases builder.download with
  | false =>
      rfl
  | true =>
      rfl

theorem rootTexts_setAll (classes : Word) (root : Root)
    (settings : List (Setting σ τ)) :
    ((start classes root).setAll settings).events.filterMap Event.rootText? =
      [root.text] := by
  rw [rootTexts_events, root_setAll]
  rfl

/-- Builders with the same classes and flags make the same records if these show
the same root path. -/
theorem events_eq_iff {left right : Builder σ τ}
    (classes : left.classes = right.classes) (train : left.train = right.train)
    (download : left.download = right.download) :
    left.events = right.events ↔ left.root.text = right.root.text := by
  simp only [events, split, classes, train, download, List.cons.injEq,
    Event.building.injEq, true_and, and_true]

end Builder

/-- The root path of a collection is the one that was given.  The record shows
its characters, in order, with one `U+FFFD` for each broken piece, and no other
cut of the path is possible.  So the record shows the path itself
just when the path is valid, tells valid paths apart, and shows the same when it
is made again for what it has shown. -/
theorem recorded_root_text {σ τ : Type} (classes : Word) (root : Root)
    (settings : List (Setting σ τ)) :
    let builder := (Builder.start classes root).setAll settings
    let text := root.text
    builder.build.root = root ∧
    builder.events.filterMap Event.rootText? = [text] ∧
    (∃ found, Cut root.bytes found) ∧
    (∀ found, Cut root.bytes found →
      text.toList =
        found.map fun segment =>
          match segment with
          | .scalar char => char
          | .broken _ => '\uFFFD') ∧
    List.TFAE
      [text.toUTF8.toList = root.bytes,
        root.bytes.toByteArray.IsValidUTF8,
        Utf8.isValid root.bytes = true] ∧
    (∀ (other : Root) (otherSettings : List (Setting σ τ)),
      let otherBuilder := (Builder.start classes other).setAll otherSettings
      root.bytes.toByteArray.IsValidUTF8 →
        other.bytes.toByteArray.IsValidUTF8 →
          builder.train = otherBuilder.train →
            builder.download = otherBuilder.download →
              (builder.events = otherBuilder.events ↔
                root.bytes = other.bytes)) ∧
    (∀ (otherClasses : Word) (otherSettings : List (Setting σ τ)),
      let again :=
        (Builder.start otherClasses (Root.ofString text)).setAll otherSettings
      again.events.filterMap Event.rootText? = [text]) := by
  intro builder text
  refine ⟨?_, ?_, ?_, ?_, ?_, ?_, ?_⟩
  · exact Builder.root_setAll _ settings
  · exact Builder.rootTexts_setAll classes root settings
  · exact ⟨_, Utf8.cut_segments root.bytes⟩
  · intro found cut
    rw [cut.eq_segments, root.toList_text]
    apply List.map_congr_left
    intro segment _
    cases segment with
    | scalar char =>
        rfl
    | broken piece =>
        rfl
  · have sameBytes :
        text.toUTF8.toList = root.bytes ↔ Root.ofString text = root :=
      @Root.bytes_inj (Root.ofString text) root
    rw [sameBytes]
    exact root.ofString_text_tfae
  · intro other otherSettings otherBuilder valid otherValid train download
    have sameClasses : builder.classes = otherBuilder.classes := by
      rw [Builder.classes_setAll, Builder.classes_setAll]
      rfl
    have rootEq : builder.root = root := Builder.root_setAll _ settings
    have otherRootEq : otherBuilder.root = other :=
      Builder.root_setAll _ otherSettings
    rw [Builder.events_eq_iff sameClasses train download, rootEq, otherRootEq,
      Root.text_inj_of_valid valid otherValid, Root.bytes_inj]
  · intro otherClasses otherSettings again
    have recorded :=
      Builder.rootTexts_setAll otherClasses (Root.ofString text) otherSettings
    rw [Root.text_ofString] at recorded
    exact recorded

/-- A path with an unused byte, an overlong encoding, a surrogate, a character
that is cut short and a code past the last one; and two valid paths, for which
the same flags are set in different orders. -/
theorem recorded_root_text_of_some_paths :
    let broken : Root :=
      { bytes :=
          [0x61, 0xC0, 0xE0, 0x80, 0xED, 0xA0, 0x80, 0xF0, 0x9F, 0x98, 0x62,
            0xF4, 0x90, 0xC3, 0xA9] }
    let found : List Utf8.Segment :=
      [.scalar 'a', .broken [0xC0], .broken [0xE0], .broken [0x80],
        .broken [0xED], .broken [0xA0], .broken [0x80],
        .broken [0xF0, 0x9F, 0x98], .scalar 'b', .broken [0xF4],
        .broken [0x90], .scalar 'é']
    let settings : List (Setting Unit Unit) := [.train false, .download true]
    let otherSettings : List (Setting Unit Unit) :=
      [.download true, .train true, .train false]
    let left := Root.ofString "été"
    let right := Root.ofString "ete"
    let leftBuilder := (Builder.start 10 left).setAll settings
    let rightBuilder := (Builder.start 10 right).setAll otherSettings
    (Cut broken.bytes found ∧
      broken.text.toList =
        ['a', '\uFFFD', '\uFFFD', '\uFFFD', '\uFFFD', '\uFFFD', '\uFFFD',
          '\uFFFD', 'b', '\uFFFD', '\uFFFD', 'é']) ∧
    (left.bytes.toByteArray.IsValidUTF8 ∧
      right.bytes.toByteArray.IsValidUTF8 ∧
      leftBuilder.train = rightBuilder.train ∧
      leftBuilder.download = rightBuilder.download ∧
      (leftBuilder.events = rightBuilder.events ↔ left.bytes = right.bytes)) := by
  intro broken found settings otherSettings left right leftBuilder rightBuilder
  have cut : Cut broken.bytes found := by
    have segmentsEq : Utf8.segments broken.bytes = found := by
      decide +kernel
    rw [← segmentsEq]
    exact Utf8.cut_segments broken.bytes
  have leftValid := left.isValidUTF8_iff.mpr ⟨_, rfl⟩
  have rightValid := right.isValidUTF8_iff.mpr ⟨_, rfl⟩
  obtain ⟨_, _, _, shown, _, _, _⟩ := recorded_root_text 10 broken settings
  obtain ⟨_, _, _, _, _, toldApart, _⟩ := recorded_root_text 10 left settings
  exact
    ⟨⟨cut, shown found cut⟩, leftValid, rightValid, rfl, rfl,
      toldApart right otherSettings leftValid rightValid rfl rfl⟩

end BlankImages
