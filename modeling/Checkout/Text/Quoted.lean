import Checkout.Text
import Checkout.Text.Printable

namespace Checkout.Text

def hex : (digits : Nat) → Nat → Text
  | 0, _ => []
  | d + 1, n => hex d (n / 16) ++ [Nat.digitChar (n % 16)]

def quotedChar (quote c : Char) : Text :=
  if c = quote ∨ c = '\\' then ['\\', c]
  else if c = '\n' then "\\n"
  else if c = '\r' then "\\r"
  else if c = '\t' then "\\t"
  else if isPrintable c then [c]
  else if c.toNat < 0x100 then "\\x" ++ hex 2 c.toNat
  else if c.toNat < 0x10000 then "\\u" ++ hex 4 c.toNat
  else "\\U" ++ hex 8 c.toNat

def quoteFor (t : Text) : Char :=
  if '\'' ∈ t ∧ '"' ∉ t then '"' else '\''

def quoted (t : Text) : Text :=
  quoteFor t :: (t.flatMap (quotedChar (quoteFor t)) ++ [quoteFor t])

end Checkout.Text
