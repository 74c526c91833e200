/-!
# Spans and runs of code points

Two shapes in which the character tables are written: a span is an interval of code points, and a
run is a sequence of evenly spaced code points that all move by one distance. The tables themselves
stand in the modules that give them a meaning.
-/

namespace DistrictAtlas.Text

/-- An interval of code points, both ends included. -/
structure CodeSpan where
  /-- Least code point of the interval. -/
  first : Nat
  /-- Greatest code point of the interval. -/
  last : Nat
deriving DecidableEq, Repr

/-- Whether the code point lies in one of the spans. -/
def CodeSpan.covers (spans : List CodeSpan) (code : Nat) : Bool :=
  spans.any fun span => span.first ≤ code && code ≤ span.last

/-- Evenly spaced code points whose images are spaced alike. -/
structure CaseRun where
  /-- First code point of the run. -/
  first : Nat
  /-- Number of code points in the run. -/
  count : Nat
  /-- Distance from one code point of the run to the next. -/
  step : Nat
  /-- Image of the first code point. -/
  target : Nat
deriving DecidableEq, Repr

/-- The image of a code point that belongs to the run. -/
def CaseRun.image? (run : CaseRun) (code : Nat) : Option Nat :=
  if run.first ≤ code ∧ code < run.first + run.count * run.step ∧ (code - run.first) % run.step = 0
  then some (run.target + (code - run.first))
  else none

/-- The image of a code point under the first run that holds it. -/
def CaseRun.lookup (runs : List CaseRun) (code : Nat) : Option Nat :=
  runs.findSome? (·.image? code)

end DistrictAtlas.Text
