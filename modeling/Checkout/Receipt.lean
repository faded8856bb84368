import Checkout.Amount

namespace Checkout

namespace Receipt

structure Line where
  item : Text
  quantity : Int
  unitPrice : Int
  text : Text
  rendered : Bool
  deriving DecidableEq, Repr

def Line.total (l : Line) : Int := Amount.product l.unitPrice l.quantity

def blank : Text := "[BLANK]"

def label : Text := "TOTAL PRICE: "

end Receipt

structure Receipt where
  symbol : Text
  lines : List Receipt.Line
  total : Int
  deriving DecidableEq, Repr

namespace Receipt

def ofLines (symbol : Text) (lines : List Line) : Receipt :=
  ⟨symbol, lines, (lines.map Line.total).foldr (· + ·) 0⟩

def amount? (r : Receipt) : Option Text := Amount.text? r.total

def formatted? (r : Receipt) : Option Text := Amount.format? r.symbol r.total

def totalLine? (r : Receipt) : Option Text := r.formatted?.map (label ++ ·)

def printed? (r : Receipt) : Option (List Text) :=
  r.totalLine?.map fun last => r.lines.map (·.text) ++ [last]

def text? (r : Receipt) : Option Text := r.printed?.map (Text.joined ['\n'])

end Receipt

end Checkout
