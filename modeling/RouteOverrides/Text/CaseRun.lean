/-! # Runs of letters in one case

Most letters have one counterpart in the other case, at a distance that neighbours share. A run is a
row of such letters.

* `CaseRun.mapped?`: the counterpart of a letter under a table of runs. -/

namespace RouteOverrides.Text

/-- Letters from `first` to `last`, every `stride`-th one, whose counterpart in the other case lies
`shift` further. -/
structure CaseRun where
  first : Nat
  last : Nat
  stride : Nat
  shift : Int

namespace CaseRun

def covers (run : CaseRun) (c : Nat) : Bool :=
  run.first ≤ c && c ≤ run.last && (c - run.first) % run.stride == 0

/-- The counterpart of a code point, if a run covers it. -/
def mapped? (runs : List CaseRun) (c : Nat) : Option Nat :=
  (runs.find? (·.covers c)).map fun run => ((c : Int) + run.shift).toNat

end CaseRun

end RouteOverrides.Text
