import BlankImages.Checked

/-!
# The two halves of a collection
-/

namespace BlankImages

inductive Split where
  | train
  | test
  deriving DecidableEq, Repr

namespace Split

def ofTrainFlag : Bool → Split
  | true => train
  | false => test

def isTrain (split : Split) : Bool :=
  split == train

def size : Split → Word
  | train => 50000
  | test => 10000

def text : Split → String
  | train => "Train"
  | test => "Test"

@[simp]
theorem isTrain_ofTrainFlag (flag : Bool) :
    (ofTrainFlag flag).isTrain = flag := by
  cases flag <;> rfl

theorem ofTrainFlag_eq (flag : Bool) :
    ofTrainFlag flag = if flag then train else test := by
  cases flag <;> rfl

/-- Where nothing is chosen, training data is meant. -/
theorem ofTrainFlag_getD (chosen : Option Bool) :
    ofTrainFlag (chosen.getD true) =
      if chosen = some false then test else train := by
  cases chosen with
  | none =>
      rfl
  | some flag =>
      cases flag <;> rfl

end Split

end BlankImages
