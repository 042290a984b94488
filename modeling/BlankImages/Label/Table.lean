import BlankImages.Label.Basic

/-!
# Tables of label names

A name can be looked up in two ways: one faults on a label without an entry, the
other answers with an error that carries the label.
-/

namespace BlankImages

structure LabelTable where
  names : List String
  deriving DecidableEq, Repr

namespace LabelTable

def size (table : LabelTable) : Nat :=
  table.names.length

def name (table : LabelTable) (label : Label) : Except Fault String :=
  match table.names[label.toNat]? with
  | some name => .ok name
  | none => .error (.indexOutOfBounds table.size label.toNat)

def name? (table : LabelTable) (label : Label) : Except LabelError String :=
  match table.names[label.toNat]? with
  | some name => .ok name
  | none => .error { found := label, max := UInt64.ofNat table.size }

/-! ## What a look-up finds -/

section

variable {table : LabelTable} {label : Label}

theorem name_eq_ok_iff {name : String} :
    table.name label = .ok name ↔
      table.names[label.toNat]? = some name := by
  unfold LabelTable.name
  cases looked : table.names[label.toNat]? with
  | none =>
      simp only [reduceCtorEq]
  | some entry =>
      simp only [Except.ok.injEq, Option.some.injEq]

theorem name?_eq_ok_iff {name : String} :
    table.name? label = .ok name ↔
      table.names[label.toNat]? = some name := by
  unfold LabelTable.name?
  cases looked : table.names[label.toNat]? with
  | none =>
      simp only [reduceCtorEq]
  | some entry =>
      simp only [Except.ok.injEq, Option.some.injEq]

theorem lt_size_of_getElem? {name : String}
    (entry : table.names[label.toNat]? = some name) :
    label.toNat < table.size := by
  obtain ⟨within, _⟩ := List.getElem?_eq_some_iff.mp entry
  exact within

theorem found_of_name?_eq_error {error : LabelError}
    (failed : table.name? label = .error error) : error.found = label := by
  unfold LabelTable.name? at failed
  cases looked : table.names[label.toNat]? with
  | none =>
      rw [looked] at failed
      cases failed
      rfl
  | some entry =>
      rw [looked] at failed
      cases failed

end

/-! ## The tables -/

def cifar10 : LabelTable where
  names :=
    [ "Airplane", "Automobile", "Bird", "Cat", "Deer",
      "Dog", "Frog", "Horse", "Ship", "Truck" ]

def cifar100 : LabelTable where
  names :=
    [ "apple", "aquarium_fish", "baby", "bear", "beaver",
      "bed", "bee", "beetle", "bicycle", "bottle",
      "bowl", "boy", "bridge", "bus", "butterfly",
      "camel", "can", "castle", "caterpillar", "cattle",
      "chair", "chimpanzee", "clock", "cloud", "cockroach",
      "couch", "crab", "crocodile", "cup", "dinosaur",
      "dolphin", "elephant", "flatfish", "forest", "fox",
      "girl", "hamster", "house", "kangaroo", "keyboard",
      "lamp", "lawn_mower", "leopard", "lion", "lizard",
      "lobster", "man", "maple_tree", "motorcycle", "mountain",
      "mouse", "mushroom", "oak_tree", "orange", "orchid",
      "otter", "palm_tree", "pear", "pickup_truck", "pine_tree",
      "plain", "plate", "poppy", "porcupine", "possum",
      "rabbit", "raccoon", "ray", "road", "rocket",
      "rose", "sea", "seal", "shark", "shrew",
      "skunk", "skyscraper", "snail", "snake", "spider",
      "squirrel", "streetcar", "sunflower", "sweet_pepper", "table",
      "tank", "telephone", "television", "tiger", "tractor",
      "train", "trout", "tulip", "turtle", "wardrobe",
      "whale", "willow_tree", "wolf", "woman", "worm" ]

def forClasses? (classes : Word) : Option LabelTable :=
  if classes = 10 then some cifar10
  else if classes = 100 then some cifar100
  else none

/-- A table has as many names as its collection has classes. -/
theorem size_of_forClasses? {classes : Word} {table : LabelTable}
    (found : forClasses? classes = some table) :
    table.size = classes.toNat := by
  unfold forClasses? at found
  split at found
  · rename_i ten
    cases found
    subst ten
    rfl
  · split at found
    · rename_i hundred
      cases found
      subst hundred
      rfl
    · cases found

end LabelTable

end BlankImages
