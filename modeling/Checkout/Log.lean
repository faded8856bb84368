import Checkout.Text

namespace Checkout.Log

inductive Level
  | debug
  | info
  | warning
  | error
  | critical
  deriving DecidableEq, Repr

def Level.name : Level → Text
  | .debug => "DEBUG"
  | .info => "INFO"
  | .warning => "WARNING"
  | .error => "ERROR"
  | .critical => "CRITICAL"

structure Entry where
  level : Level
  message : Text
  deriving DecidableEq, Repr

def substitute (c : Char) (w : Text) (t : Text) : Text := t.flatMap fun d => if d = c then w else [d]

/-- Line ends and tabs are spelled out and NUL is dropped, one kind after the other, so that text
from outside cannot begin a line of its own. -/
def escape (t : Text) : Text :=
  substitute '\x00' [] (substitute '\t' "\\t" (substitute '\r' "\\r" (substitute '\n' "\\n" t)))

/-- The first characters of a text, or all but the last ones for a negative count. -/
def firstChars (count : Int) (t : Text) : Text :=
  if 0 ≤ count then t.take count.toNat else t.take (t.length - count.natAbs)

def truncate (limit : Int) (t : Text) : Text :=
  if (t.length : Int) ≤ limit then t else firstChars limit t ++ "..."

def sanitize (limit : Int) : Option Text → Text
  | none => "N/A"
  | some [] => "N/A"
  | some t => truncate limit (escape t)

def defaultLimit : Int := 50

def sanitized (t : Text) : Text := sanitize defaultLimit (some t)

end Checkout.Log
