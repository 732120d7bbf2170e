/-!
# Sets and maps of code points

Properties of characters are tables of code points: closed ranges for a property, runs of evenly
spaced code points moved by one offset for a mapping.
-/

namespace KeyStore.Text

/-- Whether `n` lies in one of the closed ranges. -/
def inRanges (ranges : List (Nat × Nat)) (n : Nat) : Bool :=
  ranges.any fun range => range.1 ≤ n && n ≤ range.2

/-- The code points `first`, `first + stride`, … up to `last`, each mapped to itself plus
`offset`. -/
structure CodeRun where
  first : Nat
  last : Nat
  stride : Nat
  offset : Int

/-- Whether `n` belongs to the run. -/
def CodeRun.contains (run : CodeRun) (n : Nat) : Bool :=
  run.first ≤ n && n ≤ run.last && (n - run.first) % run.stride = 0

/-- The image of `n` under the run that holds it; `n` itself if none does. -/
def mapRuns (runs : List CodeRun) (n : Nat) : Nat :=
  match runs.find? (·.contains n) with
  | some run => ((n : Int) + run.offset).toNat
  | none => n

end KeyStore.Text
