import Checkout.Cart

namespace Checkout

structure Register where
  cart : Cart
  prices : PriceTable
  roll : List Text
  deriving DecidableEq, Repr

namespace Register

inductive Step
  | add (item : Text) (quantity : Int)
  | remove (item : Text) (quantity : Int)
  | unitsOf (item : Text)
  | contains (item : Text)
  | clear
  | receipt
  | printToRoll
  | printToStream
  | setFormat (template : Option Text)
  | setConsume (on : Bool)
  | setPrice (item : Text) (price : Option Int)
  deriving DecidableEq, Repr

inductive Answer
  | nothing
  | units (n : Int)
  | holds (yes : Bool)
  | receipt (r : Receipt)
  | roll (r : Receipt) (lines : List Text)
  | written (r : Receipt) (t : Text)
  deriving DecidableEq, Repr

structure Reply where
  log : List Log.Entry
  result : Except Cart.Failure Answer

def scanned (r : Register) (item : Text) (s : List Log.Entry × Except Cart.Failure Cart) :
    Register × Reply :=
  match s with
  | (log, .error e) => (r, ⟨log, .error e⟩)
  | (log, .ok c) => ({ r with cart := c }, ⟨log, .ok (.units (c.basket.units item))⟩)

/-- Makes a receipt and passes it on. Nothing changes where the receipt fails. -/
def billed (r : Register) (deliver : Register → Receipt → Register × Except Cart.Failure Answer) :
    Register × Reply :=
  match r.cart.receipt r.prices with
  | (log, none) => (r, ⟨log, .error .longNumeral⟩)
  | (log, some receipt) =>
      let delivered := deliver { r with cart := r.cart.afterReceipt } receipt
      (delivered.1, ⟨log, delivered.2⟩)

def toRoll (r : Register) (receipt : Receipt) : Register × Except Cart.Failure Answer :=
  match receipt.printed? with
  | none => (r, .error .longNumeral)
  | some lines => ({ r with roll := r.roll ++ lines }, .ok (.roll receipt (r.roll ++ lines)))

def toStream (r : Register) (receipt : Receipt) : Register × Except Cart.Failure Answer :=
  match receipt.printed? with
  | none => (r, .error .longNumeral)
  | some lines => (r, .ok (.written receipt (Text.ofLines lines)))

def done (r : Register) (a : Answer) : Register × Reply := (r, ⟨[], .ok a⟩)

def step (r : Register) : Step → Register × Reply
  | .add item quantity => r.scanned item (r.cart.add item quantity)
  | .remove item quantity => r.scanned item (r.cart.remove item quantity)
  | .unitsOf item => r.done (.units (r.cart.basket.units item))
  | .contains item => r.done (.holds (r.cart.basket.holds item))
  | .clear => done { r with cart := r.cart.clear } .nothing
  | .receipt => r.billed fun r receipt => (r, .ok (.receipt receipt))
  | .printToRoll => r.billed toRoll
  | .printToStream => r.billed toStream
  | .setFormat template => done { r with cart := { r.cart with lineFormat := template } } .nothing
  | .setConsume on => done { r with cart := { r.cart with consume := on } } .nothing
  | .setPrice item price => done { r with prices := r.prices.insert item price } .nothing

structure Event where
  step : Step
  before : Register
  reply : Reply
  after : Register

def event (r : Register) (s : Step) : Event := ⟨s, r, (r.step s).2, (r.step s).1⟩

def run (r : Register) : List Step → List Event
  | [] => []
  | s :: steps => r.event s :: run (r.step s).1 steps

def after (r : Register) (steps : List Step) : Register :=
  steps.foldl (fun r s => (r.step s).1) r

end Register

end Checkout
