import Checkout.Text.CaseTable

namespace Checkout.Text

/-- The form of a character in the other case, which may be several characters long. A character
that neither table knows stands for itself. -/
def recase (sequences : List (Nat × List Nat)) (runs : List CaseRun) (c : Char) : List Char :=
  match sequences.lookup c.toNat with
  | some s => s.map Char.ofNat
  | none =>
      match runs.find? fun r =>
        r.first ≤ c.toNat && c.toNat ≤ r.last && (c.toNat - r.first) % r.step == 0 with
      | some r => [Char.ofNat (r.other + (c.toNat - r.first))]
      | none => [c]

def capital : Char → List Char := recase capitalSequences capitalRuns

def capitals (t : List Char) : List Char := t.flatMap capital

def small : Char → List Char := recase smallSequences smallRuns

def smalls (t : List Char) : List Char := t.flatMap small

end Checkout.Text
