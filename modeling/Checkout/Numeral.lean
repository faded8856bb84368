import Checkout.Text
import Checkout.Text.Decimal

namespace Checkout.Numeral

/-- Numerals have at most this many digits, read or written. -/
def maxDigits : Nat := 4300

def natural (n : Nat) : Text := Nat.toDigits 10 n

def text (n : Int) : Text :=
  if n < 0 then '-' :: natural n.natAbs else natural n.natAbs

@[irreducible] def bound : Nat := Nat.pow 10 maxDigits

def write? (n : Int) : Option Text :=
  if n.natAbs < bound then some (text n) else none

/-- Reads digits of any script, with single underscores between them, onto those already read,
latest first. -/
def readDigits (read : List Nat) : Text → Option (List Nat)
  | [] => none
  | [c] => (Text.digit? c).map (· :: read)
  | c :: d :: t =>
      match Text.digit? c with
      | none => none
      | some n => if d = '_' then readDigits (n :: read) t else readDigits (n :: read) (d :: t)

def value (digits : List Nat) : Nat := digits.foldl (fun v d => 10 * v + d) 0

/-- Leading zeros count towards the limit. -/
def readNatural? (t : Text) : Option Nat :=
  (readDigits [] t).bind fun digits =>
    if digits.length ≤ maxDigits then some (value digits.reverse) else none

/-- The white space that may stand around a numeral: all but the four information separators. -/
def isPadding (c : Char) : Bool :=
  Text.isBlank c && !(0x1C ≤ c.toNat && c.toNat ≤ 0x1F)

def readSigned? : Text → Option Int
  | '+' :: t => (readNatural? t).map Int.ofNat
  | '-' :: t => (readNatural? t).map fun n => -Int.ofNat n
  | t => (readNatural? t).map Int.ofNat

def read? (t : Text) : Option Int := readSigned? (Text.trim isPadding t)

end Checkout.Numeral
