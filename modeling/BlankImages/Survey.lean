import BlankImages.Dataset.Naming

/-!
# Surveys

What occurs in many accesses, each value once and in ascending order.
-/

namespace BlankImages.Survey

/-! ## Ascending order -/

/-- The values that occur in a list, each once, in the order of `le`. -/
def distinct {α : Type} [BEq α] (le : α → α → Bool) (values : List α) : List α :=
  (values.mergeSort le).eraseReps

def imageLe (left right : Image) : Bool :=
  if left.channels ≠ right.channels then left.channels < right.channels
  else if left.height ≠ right.height then left.height < right.height
  else left.width ≤ right.width

/-- The texts that occur.  Texts are ordered by the codes of their characters,
which is also the order of their bytes. -/
def texts (values : List String) : List String :=
  distinct (fun left right => !(right < left)) values

/-! ## What occurs in accesses -/

def allLabels (accesses : List Access) : List Label :=
  accesses.filterMap fun access => access.sample?.map Sample.label

def shapes (accesses : List Access) : List Image :=
  distinct imageLe (accesses.filterMap fun access => access.sample?.map Sample.image)

def labels (accesses : List Access) : List Label :=
  distinct (fun left right => left ≤ right) (allLabels accesses)

def faults (accesses : List Access) : List String :=
  texts (accesses.filterMap fun access => access.fault?.map Fault.message)

/-! ## How the labels are spread -/

def inRange (classes : Word) (accesses : List Access) : Bool :=
  (allLabels accesses).all fun label => label < classes

/-- The part of the classes in which a label lies, of `parts` parts of equal
size. -/
def bucket (classes parts : Word) (label : Label) : Nat :=
  label.toNat * parts.toNat / classes.toNat

def buckets (classes parts : Word) (accesses : List Access) : List Nat :=
  distinct (fun left right => left ≤ right)
    ((allLabels accesses).map (bucket classes parts))

/-- Put a value behind runs of equal values, of which the latest comes first. -/
def extendRuns {α : Type} [BEq α] (done : List (α × Nat)) (value : α) :
    List (α × Nat) :=
  match done with
  | [] => [(value, 1)]
  | (latest, count) :: others =>
      if latest == value then (latest, count + 1) :: others
      else (value, 1) :: done

def runs {α : Type} [BEq α] (values : List α) : List (α × Nat) :=
  (values.foldl extendRuns []).reverse

def frequencies (accesses : List Access) : List (Label × Nat) :=
  runs ((allLabels accesses).mergeSort fun left right => left ≤ right)

/-- Whether the labels that occur are exactly the classes, each of them between
half and one and a half times as often as an even spread has it. -/
def isUniform (classes : Word) (accesses : List Access) : Bool :=
  let expected := accesses.length / classes.toNat
  let counted := (frequencies accesses).filter fun entry => entry.1 < classes
  counted.length == classes.toNat &&
    counted.all fun entry =>
      expected ≤ 2 * entry.2 && 2 * entry.2 ≤ 3 * expected

/-! ## What occurs in look-ups -/

def names (namings : List Naming) : List String :=
  texts (namings.filterMap fun naming => naming.name.toOption)

def namingFaults (accesses : List Access) (namings : List Naming) : List String :=
  texts
    (accesses.filterMap (fun access => access.fault?.map Fault.message) ++
      namings.filterMap fun naming =>
        match naming.name with
        | .ok _ => none
        | .error fault => some fault.message)

def namingErrors (namings : List Naming) : List String :=
  texts
    (namings.filterMap fun naming =>
      match naming.name? with
      | .ok _ => none
      | .error error => some error.sentence)

end BlankImages.Survey
