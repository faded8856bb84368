import Checkout.Decimal

namespace Checkout.Amount

def minorPerMajor : Nat := 100

def cents (n : Nat) : Text := [Nat.digitChar (n / 10), Nat.digitChar (n % 10)]

def sign (minor : Int) : Text := if minor < 0 then ['-'] else []

/-- An amount of minor units in major ones, with two places. There is none where the major part
is too long for a numeral. -/
def text? (minor : Int) : Option Text :=
  (Numeral.write? (minor.natAbs / minorPerMajor)).map fun major =>
    sign minor ++ major ++ '.' :: cents (minor.natAbs % minorPerMajor)

def decimal? (minor : Int) : Option Decimal := (text? minor).bind Decimal.read?

def format? (symbol : Text) (minor : Int) : Option Text :=
  (text? minor).map (symbol ++ ·)

def product (unitPrice quantity : Int) : Int := unitPrice * quantity

end Checkout.Amount
