import BlankImages.Label.Basic

/-!
# Drawn labels

Luck enters the library in one place: a source of labels, which says what each
draw gives.
-/

namespace BlankImages

/-- The label that each draw gives, the draws being counted from zero. -/
abbrev Draws := Nat → Label

namespace Draws

def Below (draws : Draws) (classes : Word) : Prop :=
  ∀ position, draws position < classes

def segment (draws : Draws) (start count : Nat) : List Label :=
  (List.range count).map fun offset => draws (start + offset)

@[simp]
theorem length_segment (draws : Draws) (start count : Nat) :
    (draws.segment start count).length = count := by
  simp [segment]

theorem segment_add (draws : Draws) (start first second : Nat) :
    draws.segment start (first + second) =
      draws.segment start first ++ draws.segment (start + first) second := by
  unfold segment
  rw [List.range_add, List.map_append, List.map_map]
  simp only [Function.comp_def, Nat.add_assoc]

theorem take_segment (draws : Draws) (start : Nat) {first count : Nat}
    (within : first ≤ count) :
    (draws.segment start count).take first = draws.segment start first := by
  obtain ⟨second, rfl⟩ := Nat.exists_eq_add_of_le within
  rw [segment_add, List.take_left' (length_segment draws start first)]

theorem segment_congr {left right : Draws} {leftStart rightStart count : Nat}
    (same : ∀ offset, offset < count →
      left (leftStart + offset) = right (rightStart + offset)) :
    left.segment leftStart count = right.segment rightStart count := by
  apply List.map_congr_left
  intro offset member
  exact same offset (List.mem_range.mp member)

theorem lt_of_mem_segment {draws : Draws} {classes : Word}
    (below : draws.Below classes) {start count : Nat} {label : Label}
    (member : label ∈ draws.segment start count) : label < classes := by
  obtain ⟨offset, _, rfl⟩ := List.mem_map.mp member
  exact below (start + offset)

/-! ## Sources made from a seed -/

/-- Stir the bits of a word so that neighbouring words become unrelated. -/
def stir (word : Word) : Word :=
  let first := (word ^^^ (word >>> 30)) * 0xBF58476D1CE4E5B9
  let second := (first ^^^ (first >>> 27)) * 0x94D049BB133111EB
  second ^^^ (second >>> 31)

/-- The distance between the words that are stirred: an odd number near the
golden section of all words. -/
def stride : Word := 0x9E3779B97F4A7C15

def word (seed : Word) (position : Nat) : Word :=
  stir (seed + stride * UInt64.ofNat (position + 1))

/-- A word brought in proportion into the labels below the number of classes. -/
def scale (classes word : Word) : Label :=
  UInt64.ofNat (word.toNat * classes.toNat / Checked.wordCount)

def ofSeed (seed classes : Word) : Draws :=
  fun position => scale classes (word seed position)

theorem scale_lt {classes : Word} (present : classes ≠ 0) (word : Word) :
    scale classes word < classes := by
  have positive : 0 < classes.toNat := by
    apply Nat.pos_of_ne_zero
    intro zero
    exact present (UInt64.toNat_inj.mp zero)
  have below : word.toNat * classes.toNat / Checked.wordCount < classes.toNat := by
    apply Nat.div_lt_of_lt_mul
    exact Nat.mul_lt_mul_of_pos_right word.toNat_lt positive
  have small := classes.toNat_lt
  rw [scale, UInt64.lt_iff_toNat_lt, UInt64.toNat_ofNat_of_lt' (Nat.lt_trans below small)]
  exact below

theorem below_ofSeed (seed : Word) {classes : Word} (present : classes ≠ 0) :
    (ofSeed seed classes).Below classes :=
  fun _ => scale_lt present _

/-! ## Visiting orders -/

/-- Indices in the order of the words that a seed gives for them. -/
def shuffled (seed : Word) (indices : List Word) : List Word :=
  indices.mergeSort fun left right =>
    word seed left.toNat ≤ word seed right.toNat

theorem shuffled_perm (seed : Word) (indices : List Word) :
    (shuffled seed indices).Perm indices :=
  List.mergeSort_perm _ _

end Draws

end BlankImages
