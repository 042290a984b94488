import BlankImages.Tour

/-! The tour, with labels drawn from a fresh seed. -/

open BlankImages

def main : IO UInt32 := do
  let seed ← IO.rand 0 (Checked.wordCount - 1)
  let printout :=
    Tour.run (Draws.ofSeed (UInt64.ofNat seed) Tour.classes) (Draws.shuffled 0)
  for line in printout.lines do
    IO.println line
  match printout.fault? with
  | none => return 0
  | some fault =>
      IO.eprintln fault.message
      return 101
