import Checkout.Numeral

namespace Checkout

/-- An exact decimal number: a coefficient with a sign, times a power of ten. Numbers that differ in
their places differ, even where they have one value. -/
structure Decimal where
  negative : Bool
  coefficient : Nat
  exponent : Int
  deriving DecidableEq, Repr

namespace Decimal

def readUnsigned? (negative : Bool) (t : Text) : Option Decimal :=
  let (whole, places) := (Text.splitFirst '.' t).getD (t, [])
  if whole ++ places ≠ [] ∧ (whole ++ places).all Char.isDigit then
    some ⟨negative, Nat.ofDigitChars 10 (whole ++ places) 0, -(places.length : Int)⟩
  else none

def read? : Text → Option Decimal
  | '-' :: t => readUnsigned? true t
  | '+' :: t => readUnsigned? false t
  | t => readUnsigned? false t

def placed (digits : Text) (point : Int) : Text :=
  if point ≤ 0 then "0." ++ List.replicate (-point).toNat '0' ++ digits
  else if digits.length ≤ point then
    digits ++ List.replicate (point - digits.length).toNat '0'
  else digits.take point.toNat ++ '.' :: digits.drop point.toNat

def power (n : Int) : Text := if n < 0 then 'E' :: Numeral.text n else 'E' :: '+' :: Numeral.text n

/-- A number with places is written out, unless it has more than five zeros behind the point first.
Every other one is written with a power of ten. -/
def text (d : Decimal) : Text :=
  let digits := Numeral.natural d.coefficient
  let point := digits.length + d.exponent
  let sign := if d.negative then ['-'] else []
  if d.exponent ≤ 0 ∧ -6 < point then sign ++ placed digits point
  else sign ++ placed digits 1 ++ power (point - 1)

end Decimal

end Checkout
