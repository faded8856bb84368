import Checkout.Numeral
import Checkout.Text.Quoted

namespace Checkout.CommandLine

structure Scan where
  item : Text
  quantity : Int
  deriving DecidableEq, Repr

namespace Scan

inductive Fault
  | missingName
  | badQuantity
  deriving DecidableEq, Repr

structure Error where
  word : Text
  fault : Fault
  deriving DecidableEq, Repr

def Error.message (e : Error) : Text :=
  match e.fault with
  | .missingName => "missing item name in " ++ Text.quoted e.word
  | .badQuantity => "invalid quantity in " ++ Text.quoted e.word

def parse (word : Text) : Except Error Scan :=
  match Text.splitLast ':' word with
  | none => .ok ⟨word, 1⟩
  | some ([], _) => .error ⟨word, .missingName⟩
  | some (item, quantity) =>
      match Numeral.read? quantity with
      | none => .error ⟨word, .badQuantity⟩
      | some q => .ok ⟨item, q⟩

end Scan

end Checkout.CommandLine
