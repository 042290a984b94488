import BlankImages.Dataset.Access

/-!
# Accesses by several workers

An access takes up to three steps: a label is drawn, the image half is made, the
label half is made.  Each step is indivisible, and a schedule lists the workers
that move, in any order.
-/

namespace BlankImages

inductive Phase where
  | idle
  | drawn (label : Label)
  | imaged (image : Image) (entered : List Entry) (label : Label)
  deriving DecidableEq, Repr

/-- A worker: the labels that its coming accesses draw, its present access, and
the accesses it has finished, the latest first. -/
structure Worker where
  pending : List Label
  phase : Phase
  finished : List Access
  deriving DecidableEq, Repr

namespace Worker

variable {σ τ : Type}

def start (draws : List Label) : Worker where
  pending := draws
  phase := .idle
  finished := []

def accesses (worker : Worker) : List Access :=
  worker.finished.reverse

def isDone (worker : Worker) : Bool :=
  worker.pending.isEmpty && worker.phase == .idle

def finish (worker : Worker) (outcome : Except Fault Sample)
    (entered : List Entry) : Worker :=
  { worker with
    phase := .idle
    finished := { outcome, entered } :: worker.finished }

def advance (worker : Worker) (dataset : Dataset σ τ) : Worker × Dataset σ τ :=
  match worker.phase with
  | .idle =>
      match worker.pending with
      | [] => (worker, dataset)
      | drawn :: pending =>
          let started := { worker with pending }
          if dataset.classes = 0 then
            (started.finish (.error .emptyRange) [], dataset)
          else
            ({ started with phase := .drawn drawn }, dataset)
  | .drawn drawn =>
      match dataset.makeImage with
      | (.error fault, after) =>
          (worker.finish (.error fault) dataset.imageEntries, after)
      | (.ok image, after) =>
          ({ worker with phase := .imaged image dataset.imageEntries drawn }, after)
  | .imaged image entered drawn =>
      let entered := entered ++ dataset.labelEntries drawn
      match dataset.makeLabel drawn with
      | (.error fault, after) => (worker.finish (.error fault) entered, after)
      | (.ok label, after) => (worker.finish (.ok { image, label }) entered, after)

end Worker

structure Pool (σ τ : Type) where
  dataset : Dataset σ τ
  workers : List Worker

namespace Pool

variable {σ τ : Type}

def start (dataset : Dataset σ τ) (draws : List (List Label)) : Pool σ τ where
  dataset := dataset
  workers := draws.map Worker.start

/-- One step of the worker with a number; a number without a worker moves
nothing. -/
def step (pool : Pool σ τ) (number : Nat) : Pool σ τ :=
  match pool.workers[number]? with
  | none => pool
  | some worker =>
      let (moved, dataset) := worker.advance pool.dataset
      { dataset, workers := pool.workers.set number moved }

def run (pool : Pool σ τ) (schedule : List Nat) : Pool σ τ :=
  schedule.foldl step pool

def isDone (pool : Pool σ τ) : Bool :=
  pool.workers.all Worker.isDone

def accesses (pool : Pool σ τ) : List Access :=
  pool.workers.flatMap Worker.accesses

def turns (workers rounds : Nat) : List Nat :=
  (List.replicate rounds (List.range workers)).flatten

/-- The largest number of steps that one access takes. -/
def stepsPerAccess : Nat := 3

end Pool

end BlankImages
