import BlankImages.Dataset.Access

/-!
# Iterations

Nothing is accessed before it is read, and a fault ends the reading.
-/

namespace BlankImages

/-- A collection that is being visited, and the indices still to come. -/
structure Iteration (σ τ : Type) where
  dataset : Dataset σ τ
  pending : List Word

namespace Iteration

variable {σ τ : Type}

def start (dataset : Dataset σ τ) (order : List Word) : Iteration σ τ where
  dataset := dataset
  pending := order

def remaining (iteration : Iteration σ τ) : Nat :=
  iteration.pending.length

def next (iteration : Iteration σ τ) (drawn : Label) :
    Option (Access × Iteration σ τ) :=
  match iteration.pending with
  | [] => none
  | index :: pending =>
      let (access, dataset) := Collection.get iteration.dataset index drawn
      some (access, { dataset, pending })

/-- Read on, one item for each drawn label, behind the accesses that are done,
of which the latest comes first.  Reading stops at the end of the visit and
behind the first fault. -/
def readOnto (iteration : Iteration σ τ) (done : List Access) :
    List Label → List Access × Iteration σ τ
  | [] => (done.reverse, iteration)
  | drawn :: rest =>
      match iteration.next drawn with
      | none => (done.reverse, iteration)
      | some (access, after) =>
          match access.outcome with
          | .error _ => ((access :: done).reverse, after)
          | .ok _ => after.readOnto (access :: done) rest

def read (iteration : Iteration σ τ) (draws : List Label) :
    List Access × Iteration σ τ :=
  iteration.readOnto [] draws

theorem readOnto_eq (iteration : Iteration σ τ) (done : List Access)
    (draws : List Label) :
    iteration.readOnto done draws =
      (done.reverse ++ (iteration.read draws).1, (iteration.read draws).2) := by
  induction draws generalizing iteration done with
  | nil =>
      simp [readOnto, read]
  | cons drawn rest inductionHypothesis =>
      unfold read readOnto
      split
      · simp
      · split
        · simp
        · rw [inductionHypothesis, inductionHypothesis _ [_]]
          simp

@[simp]
theorem read_nil (iteration : Iteration σ τ) :
    iteration.read [] = ([], iteration) :=
  rfl

end Iteration

end BlankImages
