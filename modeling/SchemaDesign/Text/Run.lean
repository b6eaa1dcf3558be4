namespace SchemaDesign.Text

structure Run where
  first : Nat
  last : Nat
  step : Nat
deriving DecidableEq, Repr

def Run.contains (r : Run) (n : Nat) : Bool :=
  r.first ≤ n && n ≤ r.last && (n - r.first) % r.step == 0

def inRuns (runs : List Run) (c : Char) : Bool :=
  runs.any (·.contains c.toNat)

end SchemaDesign.Text
