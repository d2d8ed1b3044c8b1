/-!
# Sets of code points

A Unicode property is kept as closed ranges of code points, ascending and apart. Case pairs
alternate over long stretches, so casing properties are kept as stepped runs, and case mappings
as stepped runs with one offset each. The classes and the case folding of patterns follow
Unicode 16, all other tables Unicode 17.
-/

namespace RecordQuery.Unicode

/-- Closed ranges of code points. -/
abbrev Ranges := List (Nat × Nat)

def Ranges.contains (rs : Ranges) (c : Char) : Bool :=
  rs.any fun r => r.1 ≤ c.toNat && c.toNat ≤ r.2

/-- The code points from `first` to `last` that lie a multiple of `step` after `first`. -/
structure Steps where
  first : Nat
  last : Nat
  step : Nat

def Steps.contains (s : Steps) (n : Nat) : Bool :=
  s.first ≤ n && n ≤ s.last && (n - s.first) % s.step == 0

/-- A run of code points that are all mapped by the same offset. -/
structure Shift where
  cells : Steps
  offset : Int

namespace Shift

def move (s : Shift) (n : Nat) : Nat := (n + s.offset).toNat

/-- The run that moves back. -/
def inverse (s : Shift) : Shift :=
  ⟨⟨s.move s.cells.first, s.move s.cells.last, s.cells.step⟩, -s.offset⟩

/-- Where the code points of the run between two bounds are moved to. -/
def images (s : Shift) (first last : Nat) : Ranges :=
  let low := max first s.cells.first
  (List.range (min last s.cells.last + 1 - low)).filterMap fun i =>
    if s.cells.contains (low + i) then some (s.move (low + i), s.move (low + i)) else none

/-- The image of `n` under the first run that holds it. -/
def image? (runs : List Shift) (n : Nat) : Option Nat :=
  (runs.find? fun s => s.cells.contains n).map fun s => s.move n

end Shift

end RecordQuery.Unicode
