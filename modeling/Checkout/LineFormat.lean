import Checkout.Amount
import Checkout.Template

namespace Checkout.LineFormat

inductive Fault
  | longNumeral
  | unknown (u : Template.Unknown)
  deriving DecidableEq, Repr

/-- The texts of a line's fields. Both numerals are written whether the template shows them or
not, so a line can fail on one that it does not show. -/
def values? (symbol : Text) (quantity : Int) (name : Text) (price : Int) :
    Option Template.Values :=
  match Numeral.write? quantity, Amount.format? symbol price with
  | some q, some p => some ⟨q, name, p⟩
  | _, _ => none

/-- A receipt line. A numeral that is too long counts before a faulty template. -/
def render (symbol : Text) (template : Option Text) (quantity : Int) (name : Text) (price : Int) :
    Except Fault Text :=
  match values? symbol quantity name price with
  | none => .error .longNumeral
  | some v =>
      match Template.fill v template with
      | .error u => .error (.unknown u)
      | .ok t => .ok t

end Checkout.LineFormat
