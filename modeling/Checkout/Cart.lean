import Checkout.Basket
import Checkout.LineFormat
import Checkout.PriceTable
import Checkout.Receipt
import Checkout.Settings

namespace Checkout

structure Cart where
  basket : Basket
  symbol : Text
  lineFormat : Option Text
  consume : Bool
  deriving DecidableEq, Repr

namespace Cart

/-- A numeral that is too long to be written stops what needs it, be it only a log message. -/
inductive Failure
  | refused (r : Basket.Refused)
  | longNumeral
  deriving DecidableEq, Repr

def empty (symbol : Text) (lineFormat : Option Text) (consume : Bool) : Cart :=
  ⟨.empty, symbol, if lineFormat = some [] then none else lineFormat, consume⟩

def defaultSymbol : Text := "€"

def ofSettings (symbols : Currency.Symbols) (s : Settings) : Cart :=
  empty (Currency.symbol symbols s.currency) s.lineFormat s.consume

def refuse (c : Cart) (r : Basket.Refused) : List Log.Entry × Except Failure Cart :=
  match c.basket.warning? r with
  | none => ([], .error .longNumeral)
  | some log => (log, .error (.refused r))

def settle (c : Cart) : Except Basket.Refused Basket → List Log.Entry × Except Failure Cart
  | .ok b => ([], .ok { c with basket := b })
  | .error r => c.refuse r

def add (c : Cart) (item : Text) (quantity : Int) : List Log.Entry × Except Failure Cart :=
  c.settle (c.basket.add item quantity)

def remove (c : Cart) (item : Text) (quantity : Int) : List Log.Entry × Except Failure Cart :=
  c.settle (c.basket.remove item quantity)

def clear (c : Cart) : Cart := { c with basket := .empty }

def blankWarning (item : Text) (u : Template.Unknown) : Log.Entry :=
  ⟨.warning, "Line for " ++ Log.sanitized item ++ " printed blank: " ++ u.message⟩

def line? (c : Cart) (prices : PriceTable) (item : Text) (units : Int) :
    Option (List Log.Entry × Receipt.Line) :=
  let price := prices.price item
  match LineFormat.render c.symbol c.lineFormat units item (Amount.product price units) with
  | .ok text => some ([], ⟨item, units, price, text, true⟩)
  | .error (.unknown u) => some ([blankWarning item u], ⟨item, units, price, Receipt.blank, false⟩)
  | .error .longNumeral => none

/-- The lines in order. Where one fails, what was logged before it stays. -/
def lines? (c : Cart) (prices : PriceTable) :
    List (Text × Int) → List Log.Entry × Option (List Receipt.Line)
  | [] => ([], some [])
  | (item, units) :: rest =>
      match c.line? prices item units with
      | none => ([], none)
      | some (log, l) =>
          let after := c.lines? prices rest
          (log ++ after.1, after.2.map (l :: ·))

/-- The total is written out before the receipt counts as made, whatever the lines show. -/
def complete? (c : Cart) (lines : List Receipt.Line) : Option Receipt :=
  let r := Receipt.ofLines c.symbol lines
  r.amount?.map fun _ => r

def receipt (c : Cart) (prices : PriceTable) : List Log.Entry × Option Receipt :=
  let found := c.lines? prices c.basket.billed
  (found.1, found.2.bind c.complete?)

def afterReceipt (c : Cart) : Cart := if c.consume then c.clear else c

end Cart

end Checkout
