import Checkout.Table
import Checkout.Text.Case

namespace Checkout

inductive Currency
  | eur
  | usd
  | ron
  | gbp
  | jpy
  deriving DecidableEq, Repr

namespace Currency

def code : Currency → Text
  | .eur => "EUR"
  | .usd => "USD"
  | .ron => "RON"
  | .gbp => "GBP"
  | .jpy => "JPY"

def all : List Currency := [.eur, .usd, .ron, .gbp, .jpy]

def ofCode? (t : Text) : Option Currency := all.find? (·.code == t)

def normalize (t : Text) : Text := Text.capitals (Text.strip t)

abbrev Symbols := Table Text

def Symbols.standard : Symbols :=
  [(eur.code, "€"), (usd.code, "$"), (ron.code, "LEI ")]

def Symbols.ofList (entries : List (Text × Text)) : Symbols :=
  Table.ofEntries (entries.map fun e => (normalize e.1, e.2))

/-- The symbols of a table, or those at hand where there is none. An empty table is one. -/
def Symbols.ofOption : Option (Table Text) → Symbols
  | none => .standard
  | some entries => .ofList entries

def symbol (s : Symbols) (t : Text) : Text := (Table.get? s (normalize t)).getD (normalize t)

end Currency

end Checkout
