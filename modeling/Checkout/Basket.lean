import Checkout.Log
import Checkout.Report
import Checkout.Table

namespace Checkout

/-- The units held of each item, and the items in the order of first scans. An item whose units
all went back is held no longer, but keeps its place in the order. -/
structure Basket where
  quantities : Table Int
  order : List Text
  deriving DecidableEq, Repr

namespace Basket

def empty : Basket := ⟨[], []⟩

def units (b : Basket) (item : Text) : Int := (b.quantities.get? item).getD 0

def holds (b : Basket) (item : Text) : Bool := (b.quantities.get? item).isSome

def size (b : Basket) : Nat := b.quantities.length

def billed (b : Basket) : Table Int :=
  b.order.filterMap fun item => (b.quantities.get? item).map fun q => (item, q)

inductive Refusal
  | newItemNotPositive
  | exceedsUnits
  | removalNotPositive
  deriving DecidableEq, Repr

def Refusal.wording : Refusal → Text
  | .newItemNotPositive => "cannot add non-positive quantity for a new item"
  | .exceedsUnits => "removal exceeds scanned quantity"
  | .removalNotPositive => "removal quantity must be positive"

structure Refused where
  cause : Refusal
  item : Text
  quantity : Int
  deriving DecidableEq, Repr

def Refused.report (r : Refused) : Report := .quantity r.cause.wording r.item r.quantity

def place (item : Text) (order : List Text) : List Text :=
  if item ∈ order then order else order ++ [item]

/-- Scans units of an item. A negative quantity takes units back, down to none. -/
def add (b : Basket) (item : Text) (quantity : Int) : Except Refused Basket :=
  match b.quantities.get? item with
  | none =>
      if quantity ≤ 0 then .error ⟨.newItemNotPositive, item, quantity⟩
      else .ok ⟨b.quantities.insert item quantity, place item b.order⟩
  | some held =>
      if held + quantity < 0 then .error ⟨.exceedsUnits, item, quantity⟩
      else if held + quantity = 0 then .ok { b with quantities := b.quantities.erase item }
      else .ok { b with quantities := b.quantities.insert item (held + quantity) }

def remove (b : Basket) (item : Text) (quantity : Int) : Except Refused Basket :=
  if quantity ≤ 0 then .error ⟨.removalNotPositive, item, quantity⟩
  else b.add item (-quantity)

def warning? (b : Basket) (r : Refused) : Option (List Log.Entry) :=
  match r.cause with
  | .newItemNotPositive =>
      (Numeral.write? r.quantity).map fun q =>
        [⟨.warning, "Rejected quantity " ++ q ++ " for new item " ++ Log.sanitized r.item⟩]
  | .exceedsUnits =>
      match Numeral.write? (-r.quantity), Numeral.write? (b.units r.item) with
      | some q, some held =>
          some [⟨.warning, "Rejected removal of " ++ q ++ " " ++ Log.sanitized r.item ++ ", only " ++
            held ++ " scanned"⟩]
      | _, _ => none
  | .removalNotPositive => some []

end Basket

end Checkout
