import BlankImages.Transform

/-!
# Pipelines

The first fault ends a run: the steps behind it do not run at all.
-/

namespace BlankImages

/-- What a kind of step does: its answer, and the step as it is afterwards. -/
class PipelineStep (σ : Type) (α : outParam Type) where
  run : σ → α → Except Fault α × σ

namespace Pipeline

variable {σ α : Type} [PipelineStep σ α]

def run : List σ → α → Except Fault α × List σ
  | [], given => (.ok given, [])
  | step :: rest, given =>
      match PipelineStep.run step given with
      | (.error fault, after) => (.error fault, after :: rest)
      | (.ok value, after) =>
          let (answer, restAfter) := run rest value
          (answer, after :: restAfter)

def toTransform (steps : List σ) : Transform (List σ) α where
  state := steps
  respond := run

end Pipeline

end BlankImages
