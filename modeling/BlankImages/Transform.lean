import BlankImages.Fault

/-!
# Functions supplied by a caller

A call that faults still leaves the state that it has reached.
-/

namespace BlankImages

/-- A function on `α` together with its present state of type `σ`. -/
structure Transform (σ α : Type) where
  state : σ
  respond : σ → α → Except Fault α × σ

namespace Transform

variable {σ α : Type}

def call (transform : Transform σ α) (given : α) :
    Except Fault α × Transform σ α :=
  let (answer, state) := transform.respond transform.state given
  (answer, { transform with state })

/-- A value handed to the transform in a slot; an empty slot hands it back. -/
def apply : Option (Transform σ α) → α → Except Fault α × Option (Transform σ α)
  | none, given => (.ok given, none)
  | some transform, given =>
      let (answer, after) := transform.call given
      (answer, some after)

def callAll (transform : Transform σ α) :
    List α → List (Except Fault α) × Transform σ α
  | [] => ([], transform)
  | given :: rest =>
      let (answer, after) := transform.call given
      let (answers, last) := after.callAll rest
      (answer :: answers, last)

def pure (function : α → Except Fault α) : Transform Unit α where
  state := ()
  respond _ given := (function given, ())

/-- The text that stands for any transform: what it does is not shown. -/
def text : String := "Transform(..)"

@[simp]
theorem apply_none (given : α) :
    apply (none : Option (Transform σ α)) given = (.ok given, none) :=
  rfl

@[simp]
theorem apply_some (transform : Transform σ α) (given : α) :
    apply (some transform) given =
      ((transform.call given).1, some (transform.call given).2) :=
  rfl

@[simp]
theorem callAll_nil (transform : Transform σ α) :
    transform.callAll [] = ([], transform) :=
  rfl

@[simp]
theorem callAll_cons (transform : Transform σ α) (given : α) (rest : List α) :
    transform.callAll (given :: rest) =
      ((transform.call given).1 :: ((transform.call given).2.callAll rest).1,
        ((transform.call given).2.callAll rest).2) :=
  rfl

theorem callAll_append (transform : Transform σ α) (first second : List α) :
    transform.callAll (first ++ second) =
      ((transform.callAll first).1 ++
          ((transform.callAll first).2.callAll second).1,
        ((transform.callAll first).2.callAll second).2) := by
  induction first generalizing transform with
  | nil =>
      rfl
  | cons given rest inductionHypothesis =>
      rw [List.cons_append, callAll_cons, callAll_cons,
        inductionHypothesis]
      rfl

end Transform

end BlankImages
