import Checkout.Proofs.Run

namespace Checkout.Register

def Event.rolled (e : Event) : List Text :=
  if e.step = .printToRoll then (e.receipt?.bind Receipt.printed?).getD [] else []

/-- A step that is to make a receipt fails exactly where a number on it is too long, and with no
other failure. -/
theorem step_bills_error {r : Register} (hr : r.cart.basket.Consistent) {s : Step} (hs : s.bills)
    (f : Cart.Failure) :
    (r.step s).2.result = .error f ↔ f = .longNumeral ∧ r.cart.basket.Unwritable r.prices := by
  rw [← Cart.receipt_eq_none _ _ hr]
  cases h : (r.cart.receipt r.prices).2 with
  | none =>
      rw [step_unbilled h hs]
      simp [eq_comm]
  | some receipt =>
      obtain ⟨lines, _, hreceipt, hroll, hstream⟩ := step_billed h
      cases s with
      | receipt => simp [hreceipt]
      | printToRoll => simp [hroll]
      | printToStream => simp [hstream]
      | _ => cases hs

/-- What is answered and logged does not tell whether the cart is emptied afterwards. -/
theorem step_consume (r : Register) (on : Bool) {s : Step} (hs : s.bills) :
    (step { r with cart := { r.cart with consume := on } } s).2 = (r.step s).2 := by
  apply step_bills_congr _ _ hs
  · exact r.cart.receipt_consume r.prices on
  · rfl

theorem step_roll (r : Register) (s : Step) : (r.step s).1.roll = r.roll ++ (r.event s).rolled := by
  have hscan (item : Text) (found : Except Basket.Refused Basket) :
      (r.scanned item (r.cart.settle found)).1.roll = r.roll := by
    rcases r.scanned_cases item found with ⟨b, _, hs⟩ | ⟨_, log, f, hs⟩ <;> rw [hs]
  cases s with
  | add item d => exact (hscan item _).trans (by simp [Event.rolled])
  | remove item n => exact (hscan item _).trans (by simp [Event.rolled])
  | unitsOf | contains | clear | setFormat | setConsume | setPrice =>
      simp [Event.rolled, step, done]
  | receipt | printToStream =>
      cases h : (r.cart.receipt r.prices).2 with
      | none => rw [step_unbilled h rfl]; simp [Event.rolled]
      | some receipt =>
          obtain ⟨lines, _, hreceipt, _, hstream⟩ := step_billed h
          simp [Event.rolled, hreceipt, hstream]
  | printToRoll =>
      cases h : (r.cart.receipt r.prices).2 with
      | none =>
          obtain ⟨hreceipt, hstep⟩ := event_unbilled h (s := .printToRoll) rfl
          simp [Event.rolled, hreceipt, hstep]
      | some receipt =>
          obtain ⟨lines, hl, _, hroll, _⟩ := step_billed h
          obtain ⟨hreceipt, _⟩ := event_billed h (s := .printToRoll) rfl
          simp [Event.rolled, hreceipt, hl, hroll]

theorem roll_run (symbol : Text) (lineFormat : Option Text) (consume : Bool) (prices : PriceTable)
    (steps : List Step) :
    ((fresh symbol lineFormat consume prices).after steps).roll =
      ((fresh symbol lineFormat consume prices).run steps).flatMap Event.rolled := by
  apply run_invariant (fun events r => r.roll = events.flatMap Event.rolled) rfl
  intro events r s h
  rw [step_roll, h, List.flatMap_append, List.flatMap_singleton]

/-- A receipt is made, handed out and taken out of the cart as a whole or not at all, whatever the
cart, the prices and the line format: it fails exactly where a number on it is too long, and
nothing has changed or been printed then. Over a run, a roll holds the lines of the receipts
printed on it and nothing else. -/
theorem bills_all_or_nothing (symbol : Text) (lineFormat : Option Text) (consume : Bool)
    (prices : PriceTable) (steps : List Step) (table : PriceTable) (format : Option Text) :
    let start := fresh symbol lineFormat consume prices
    let cart := { (start.after steps).cart with lineFormat := format }
    let r : Register := { start.after steps with cart := cart, prices := table }
    (∀ s, s.bills → ∀ f, (r.step s).2.result = .error f ↔
      f = .longNumeral ∧ cart.basket.Unwritable table) ∧
    (∀ s, s.bills → cart.basket.Unwritable table → (r.step s).1 = r) ∧
    (¬ cart.basket.Unwritable table → ∃ log receipt lines, receipt.printed? = some lines ∧
      let rest := { r with cart := if cart.consume then { cart with basket := ⟨[], []⟩ } else cart }
      r.step .receipt = (rest, ⟨log, .ok (.receipt receipt)⟩) ∧
      r.step .printToRoll = ({ rest with roll := r.roll ++ lines },
        ⟨log, .ok (.roll receipt (r.roll ++ lines))⟩) ∧
      r.step .printToStream = (rest, ⟨log, .ok (.written receipt (Text.ofLines lines))⟩)) ∧
    (∀ s on, s.bills → (step { r with cart := { cart with consume := on } } s).2 = (r.step s).2) ∧
    r.roll = (start.run steps).flatMap Event.rolled := by
  intro start cart r
  have hc : r.cart.basket.Consistent :=
    consistent_after (r := start) Basket.consistent_empty steps
  have hnone : (r.cart.receipt r.prices).2 = none ↔ cart.basket.Unwritable table :=
    r.cart.receipt_eq_none r.prices hc
  refine ⟨?_, ?_, ?_, ?_, roll_run symbol lineFormat consume prices steps⟩
  · intro s hs f
    exact step_bills_error hc hs f
  · intro s hs hu
    exact (event_unbilled (hnone.mpr hu) hs).2
  · intro hu
    obtain ⟨receipt, hr⟩ := Option.ne_none_iff_exists'.mp (mt hnone.mp hu)
    obtain ⟨lines, hl, hsteps⟩ := step_billed hr
    exact ⟨_, receipt, lines, hl, hsteps⟩
  · intro s on hs
    exact step_consume r on hs

end Checkout.Register
