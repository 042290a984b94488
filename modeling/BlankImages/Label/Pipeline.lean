import BlankImages.Label.Basic
import BlankImages.Pipeline

/-!
# Steps on labels

Arithmetic is checked: a result that is no word is a fault.
-/

namespace BlankImages

inductive LabelStep where
  | add (amount : Word)
  | sub (amount : Word)
  /-- Takes the label from the amount. -/
  | subFrom (amount : Word)
  | mul (factor : Word)
  | div (divisor : Word)
  | mod (divisor : Word)
  | xor (mask : Word)
  | min (bound : Word)
  | max (bound : Word)
  | const (value : Word)
  /-- Puts `replacement` in place of `label` and keeps every other label. -/
  | map (label replacement : Word)
  /-- Answers how often this step has run. -/
  | calls (before : Nat)
  | fail (text : String)
  /-- Faults from `bound` on. -/
  | failFrom (bound : Word) (text : String)
  deriving DecidableEq, Repr

namespace LabelStep

def answer : LabelStep → Label → Except Fault Label
  | add amount, label => Checked.add label amount
  | sub amount, label => Checked.sub label amount
  | subFrom amount, label => Checked.sub amount label
  | mul factor, label => Checked.mul label factor
  | div divisor, label => Checked.div label divisor
  | mod divisor, label => Checked.mod label divisor
  | xor mask, label => .ok (label ^^^ mask)
  | min bound, label => .ok (if label ≤ bound then label else bound)
  | max bound, label => .ok (if label ≤ bound then bound else label)
  | const value, _ => .ok value
  | map replaced replacement, label =>
      .ok (if label = replaced then replacement else label)
  | calls before, _ => .ok (UInt64.ofNat (before + 1))
  | fail text, _ => .error (.raised text)
  | failFrom bound text, label =>
      if bound ≤ label then .error (.raised text) else .ok label

def advance : LabelStep → LabelStep
  | calls before => calls (before + 1)
  | step => step

/-- Whether the answer of a step does not depend on the label it is given. -/
def forgetsLabel : LabelStep → Bool
  | const _ => true
  | calls _ => true
  | _ => false

instance : PipelineStep LabelStep Label where
  run step label := (step.answer label, step.advance)

end LabelStep

abbrev LabelPipeline := List LabelStep

namespace LabelPipeline

/-- Whether some step forgets the label it is given. -/
def forgetsLabel (steps : LabelPipeline) : Bool :=
  steps.any LabelStep.forgetsLabel

end LabelPipeline

end BlankImages
