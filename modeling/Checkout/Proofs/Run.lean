import Checkout.Register
import Checkout.Proofs.Billing
import Mathlib.Data.List.Induction

namespace Checkout.Register

def fresh (symbol : Text) (lineFormat : Option Text) (consume : Bool) (prices : PriceTable) :
    Register :=
  ⟨.empty symbol lineFormat consume, prices, []⟩

def Answer.receipt? : Answer → Option Receipt
  | .receipt r | .roll r _ | .written r _ => some r
  | .nothing | .units _ | .holds _ => none

namespace Event

def delta? (e : Event) : Option (Text × Int) :=
  match e.step, e.reply.result with
  | .add item quantity, .ok _ => some (item, quantity)
  | .remove item quantity, .ok _ => some (item, -quantity)
  | _, _ => none

def scanned? (e : Event) : Option Text :=
  match e.step, e.reply.result with
  | .add item _, .ok _ => some item
  | _, _ => none

def receipt? (e : Event) : Option Receipt := e.reply.result.toOption.bind Answer.receipt?

def drained? (e : Event) : Option Receipt :=
  if e.before.cart.consume then e.receipt? else none

def empties (e : Event) : Bool := e.step = .clear || e.drained?.isSome

inductive Effect (e : Event) : Prop
  | kept (hd : e.delta? = none) (hs : e.scanned? = none) (hr : e.empties = false)
      (hb : e.after.cart.basket = e.before.cart.basket)
  | moved (item : Text) (d : Int) (hd : e.delta? = some (item, d))
      (hs : e.scanned? = some item ∨ e.scanned? = none ∧ d < 0) (hr : e.empties = false)
      (hb : e.before.cart.basket.add item d = .ok e.after.cart.basket)
  | emptied (hd : e.delta? = none) (hs : e.scanned? = none) (hr : e.empties = true)
      (hb : e.after.cart.basket = .empty)

end Event

@[simp] theorem event_step (r : Register) (s : Step) : (r.event s).step = s := rfl

@[simp] theorem event_before (r : Register) (s : Step) : (r.event s).before = r := rfl

@[simp] theorem event_after (r : Register) (s : Step) : (r.event s).after = (r.step s).1 := rfl

theorem run_append (r : Register) (a b : List Step) :
    r.run (a ++ b) = r.run a ++ (r.after a).run b := by
  induction a generalizing r with
  | nil => rfl
  | cons s a ih => exact congrArg (r.event s :: ·) (ih (r.step s).1)

theorem run_steps (r : Register) (steps : List Step) : (r.run steps).map (·.step) = steps := by
  induction steps generalizing r with
  | nil => rfl
  | cons s steps ih => exact congrArg (s :: ·) (ih (r.step s).1)

theorem mem_run {r : Register} {steps : List Step} {e : Event} (he : e ∈ r.run steps) :
    e = e.before.event e.step := by
  induction steps generalizing r with
  | nil => cases he
  | cons s steps ih =>
      rcases List.mem_cons.mp he with rfl | he
      · rfl
      · exact ih he

theorem after_append (r : Register) (a b : List Step) :
    r.after (a ++ b) = (r.after a).after b := List.foldl_append

/-- What holds at first and is kept by every step holds of the events of a run and the register
that it leaves. -/
theorem run_invariant {r : Register} (P : List Event → Register → Prop) (start : P [] r)
    (next : ∀ events r s, P events r → P (events ++ [r.event s]) (r.step s).1)
    (steps : List Step) : P (r.run steps) (r.after steps) := by
  induction steps using List.reverseRecOn with
  | nil => exact start
  | append_singleton steps s ih =>
      rw [run_append, after_append]
      exact next _ _ s ih

/-- What holds at first and is kept by each step that is taken holds before each of them. -/
theorem run_before {r : Register} {P : Register → Prop} (start : P r) {steps : List Step}
    (next : ∀ r, ∀ s ∈ steps, P r → P (r.step s).1) : ∀ e ∈ r.run steps, P e.before := by
  induction steps generalizing r with
  | nil => exact List.forall_mem_nil _
  | cons s steps ih =>
      rw [run, List.forall_mem_cons]
      refine ⟨start, ih (next r s List.mem_cons_self start) ?_⟩
      intro r' s' hs'
      exact next r' s' (List.mem_cons_of_mem s hs')

/-- A scan either is accepted and answers the units of the item, or fails and changes nothing. -/
theorem scanned_cases (r : Register) (item : Text) (found : Except Basket.Refused Basket) :
    (∃ b, found = .ok b ∧ r.scanned item (r.cart.settle found) =
      ({ r with cart := { r.cart with basket := b } }, ⟨[], .ok (.units (b.units item))⟩)) ∨
    ((∀ b, found ≠ .ok b) ∧ ∃ log f, r.scanned item (r.cart.settle found) =
      (r, ⟨log, .error f⟩)) := by
  rcases r.cart.settle_cases found with ⟨b, hb, hs⟩ | ⟨hb, log, f, hs⟩
  · exact .inl ⟨b, hb, by rw [hs]; rfl⟩
  · exact .inr ⟨hb, log, f, by rw [hs]; rfl⟩

def Step.item? : Step → Option Text
  | .add item _ | .remove item _ => some item
  | _ => none

theorem Event.item?_of_delta? {e : Event} {item : Text} {d : Int} (h : e.delta? = some (item, d)) :
    e.step.item? = some item := by
  rw [Event.delta?] at h
  split at h
  · cases h
    simp [Step.item?, *]
  · cases h
    simp [Step.item?, *]
  · cases h

theorem step_scan {r : Register} {s : Step} (hs : s.item? ≠ none) :
    ∃ b, (r.step s).1 = { r with cart := { r.cart with basket := b } } := by
  have hscan (item : Text) (found : Except Basket.Refused Basket) :
      ∃ b, (r.scanned item (r.cart.settle found)).1 =
        { r with cart := { r.cart with basket := b } } := by
    rcases r.scanned_cases item found with ⟨b, _, h⟩ | ⟨_, log, f, h⟩
    · exact ⟨b, by rw [h]⟩
    · exact ⟨r.cart.basket, by rw [h]⟩
  cases s with
  | add item d => exact hscan item _
  | remove item n => exact hscan item _
  | _ => exact absurd rfl hs

def Step.bills : Step → Bool
  | .receipt | .printToRoll | .printToStream => true
  | _ => false

/-- A step that is to make a receipt fails where there is none, and changes nothing then. -/
theorem step_unbilled {r : Register} (h : (r.cart.receipt r.prices).2 = none) {s : Step}
    (hs : s.bills) :
    r.step s = (r, ⟨(r.cart.receipt r.prices).1, .error .longNumeral⟩) := by
  rcases hr : r.cart.receipt r.prices with ⟨log, made⟩
  rw [hr] at h
  subst h
  cases s with
  | receipt | printToRoll | printToStream =>
      rw [step, billed, hr]
  | _ => cases hs

/-- A receipt that is made is handed out whole: nothing fails after the cart was emptied. -/
theorem step_billed {r : Register} {receipt : Receipt}
    (h : (r.cart.receipt r.prices).2 = some receipt) :
    ∃ lines, receipt.printed? = some lines ∧
      let log := (r.cart.receipt r.prices).1
      let rest := { r with cart := r.cart.afterReceipt }
      r.step .receipt = (rest, ⟨log, .ok (.receipt receipt)⟩) ∧
      r.step .printToRoll = ({ rest with roll := r.roll ++ lines },
        ⟨log, .ok (.roll receipt (r.roll ++ lines))⟩) ∧
      r.step .printToStream = (rest, ⟨log, .ok (.written receipt (Text.ofLines lines))⟩) := by
  obtain ⟨_, _, hl⟩ := r.cart.receipt_printed r.prices h
  rcases hr : r.cart.receipt r.prices with ⟨log, made⟩
  rw [hr] at h
  subst h
  refine ⟨_, hl, ?_, ?_, ?_⟩
  · simp only [step, billed, hr]
  · simp only [step, billed, hr, toRoll, hl]
  · simp only [step, billed, hr, toStream, hl]

theorem step_bills_log (r : Register) {s : Step} (hs : s.bills) :
    (r.step s).2.log = (r.cart.receipt r.prices).1 := by
  cases h : (r.cart.receipt r.prices).2 with
  | none => rw [step_unbilled h hs]
  | some receipt =>
      obtain ⟨lines, _, hreceipt, hroll, hstream⟩ := step_billed h
      cases s with
      | receipt => rw [hreceipt]
      | printToRoll => rw [hroll]
      | printToStream => rw [hstream]
      | _ => cases hs

/-- What a step answers that is to make a receipt is decided by the receipt there is to make and by
the roll. -/
theorem step_bills_congr {r r' : Register}
    (h : r'.cart.receipt r'.prices = r.cart.receipt r.prices) (hroll : r'.roll = r.roll) {s : Step}
    (hs : s.bills) : (r'.step s).2 = (r.step s).2 := by
  cases hr : (r.cart.receipt r.prices).2 with
  | none =>
      have hr' : (r'.cart.receipt r'.prices).2 = none := by rw [h, hr]
      rw [step_unbilled hr hs, step_unbilled hr' hs, h]
  | some receipt =>
      have hr' : (r'.cart.receipt r'.prices).2 = some receipt := by rw [h, hr]
      obtain ⟨lines, hl, hreceipt, hprinted, hstream⟩ := step_billed hr
      obtain ⟨lines', hl', hreceipt', hprinted', hstream'⟩ := step_billed hr'
      cases hl.symm.trans hl'
      cases s with
      | receipt => rw [hreceipt, hreceipt', h]
      | printToRoll => rw [hprinted, hprinted', h, hroll]
      | printToStream => rw [hstream, hstream', h]
      | _ => cases hs

theorem event_billed {r : Register} {receipt : Receipt}
    (h : (r.cart.receipt r.prices).2 = some receipt) {s : Step} (hs : s.bills) :
    (r.event s).receipt? = some receipt ∧ (r.step s).1.cart = r.cart.afterReceipt ∧
      (r.step s).1.prices = r.prices := by
  obtain ⟨lines, _, hreceipt, hroll, hstream⟩ := step_billed h
  cases s with
  | receipt => simp [Event.receipt?, event, hreceipt, Answer.receipt?, Except.toOption]
  | printToRoll => simp [Event.receipt?, event, hroll, Answer.receipt?, Except.toOption]
  | printToStream => simp [Event.receipt?, event, hstream, Answer.receipt?, Except.toOption]
  | _ => cases hs

theorem event_unbilled {r : Register} (h : (r.cart.receipt r.prices).2 = none) {s : Step}
    (hs : s.bills) : (r.event s).receipt? = none ∧ (r.step s).1 = r := by
  rw [Event.receipt?, event, step_unbilled h hs]
  exact ⟨rfl, rfl⟩

/-- Only the steps that are to make a receipt hand one out, and it is the one of the cart. -/
theorem event_receipt? (r : Register) (s : Step) :
    (r.event s).receipt? = if s.bills then (r.cart.receipt r.prices).2 else none := by
  have hscan (item : Text) (found : Except Basket.Refused Basket) :
      (r.scanned item (r.cart.settle found)).2.result.toOption.bind Answer.receipt? = none := by
    rcases r.scanned_cases item found with ⟨b, _, hs⟩ | ⟨_, log, f, hs⟩ <;> rw [hs] <;> rfl
  cases s with
  | add item d => exact hscan item _
  | remove item n => exact hscan item _
  | unitsOf | contains | clear | setFormat | setConsume | setPrice => rfl
  | receipt | printToRoll | printToStream =>
      refine Eq.trans ?_ (if_pos rfl).symm
      cases h : (r.cart.receipt r.prices).2 with
      | none => exact (event_unbilled h rfl).1
      | some receipt => exact (event_billed h rfl).1

theorem receipt_of_event {r : Register} {s : Step} {receipt : Receipt}
    (h : (r.event s).receipt? = some receipt) : (r.cart.receipt r.prices).2 = some receipt := by
  rw [event_receipt?] at h
  split at h
  · exact h
  · cases h

theorem effect_of_error {e : Event} {f : Cart.Failure} (h : e.reply.result = .error f)
    (hc : e.step ≠ .clear) (hb : e.after.cart.basket = e.before.cart.basket) : e.Effect :=
  .kept (by rw [Event.delta?, h]; split <;> simp_all) (by rw [Event.scanned?, h]; split <;> simp_all)
    (by simp [Event.empties, Event.drained?, Event.receipt?, h, hc, Except.toOption]) hb

theorem effect_of_scan {e : Event} {item : Text} {d q : Int} (h : e.reply.result = .ok (.units q))
    (hs : e.step = .add item d ∨ e.step = .remove item (-d) ∧ d < 0)
    {b : Basket} (ha : e.before.cart.basket.add item d = .ok b) (hb : e.after.cart.basket = b) :
    e.Effect := by
  subst hb
  have hr : e.receipt? = none := by rw [Event.receipt?, h]; rfl
  rcases hs with hs | ⟨hs, hd⟩
  · exact .moved item d (by simp [Event.delta?, h, hs]) (by simp [Event.scanned?, h, hs])
      (by simp [Event.empties, Event.drained?, hr, hs]) ha
  · exact .moved item d (by simp [Event.delta?, h, hs]) (by simp [Event.scanned?, h, hs, hd])
      (by simp [Event.empties, Event.drained?, hr, hs]) ha

theorem effect_of_bills (r : Register) {s : Step} (hs : s.bills) : (r.event s).Effect := by
  have hc : s ≠ .clear := by rintro rfl; cases hs
  cases h : (r.cart.receipt r.prices).2 with
  | none =>
      have hstep := step_unbilled h hs
      exact effect_of_error (congrArg (·.2.result) hstep) hc (congrArg (·.1.cart.basket) hstep)
  | some receipt =>
      obtain ⟨hr, hcart, _⟩ := event_billed h hs
      have hd : (r.event s).delta? = none ∧ (r.event s).scanned? = none := by
        cases s with
        | receipt | printToRoll | printToStream => exact ⟨rfl, rfl⟩
        | _ => cases hs
      have hb := congrArg Cart.basket hcart
      rw [Cart.afterReceipt] at hb
      by_cases hon : r.cart.consume
      · rw [if_pos hon] at hb
        have hdrained : (r.event s).drained? = some receipt := (if_pos hon).trans hr
        exact .emptied hd.1 hd.2 (by simp [Event.empties, hdrained]) hb
      · rw [if_neg hon] at hb
        have hdrained : (r.event s).drained? = none := if_neg hon
        exact .kept hd.1 hd.2 (by simp [Event.empties, hdrained, hc]) hb

theorem event_effect (r : Register) (s : Step) : (r.event s).Effect := by
  cases s with
  | add item d =>
      have hstep : r.step (.add item d) = r.scanned item (r.cart.settle (r.cart.basket.add item d)) :=
        rfl
      rcases r.scanned_cases item (r.cart.basket.add item d) with ⟨b, hb, hs⟩ | ⟨_, log, f, hs⟩
      · rw [hs] at hstep
        exact effect_of_scan (congrArg (·.2.result) hstep) (.inl rfl) hb
          (congrArg (·.1.cart.basket) hstep)
      · rw [hs] at hstep
        exact effect_of_error (congrArg (·.2.result) hstep) nofun (congrArg (·.1.cart.basket) hstep)
  | remove item n =>
      have hstep : r.step (.remove item n) =
          r.scanned item (r.cart.settle (r.cart.basket.remove item n)) := rfl
      rcases r.scanned_cases item (r.cart.basket.remove item n) with ⟨b, hb, hs⟩ | ⟨_, log, f, hs⟩
      · rw [hs] at hstep
        obtain ⟨hn, hb⟩ := Basket.remove_eq_ok.mp hb
        exact effect_of_scan (d := -n) (congrArg (·.2.result) hstep)
          (.inr ⟨congrArg (Step.remove item) (Int.neg_neg n).symm, by omega⟩) hb
          (congrArg (·.1.cart.basket) hstep)
      · rw [hs] at hstep
        exact effect_of_error (congrArg (·.2.result) hstep) nofun (congrArg (·.1.cart.basket) hstep)
  | clear => exact .emptied rfl rfl rfl rfl
  | receipt | printToRoll | printToStream => exact r.effect_of_bills rfl
  | unitsOf | contains | setFormat | setConsume | setPrice =>
      exact .kept rfl rfl (by rw [Event.empties, Event.drained?]; split <;> rfl) rfl

theorem add_of_delta? {r : Register} {s : Step} {item : Text} {d : Int}
    (h : (r.event s).delta? = some (item, d)) :
    r.cart.basket.add item d = .ok (r.step s).1.cart.basket := by
  cases r.event_effect s with
  | kept hd _ _ _ => rw [hd] at h; cases h
  | emptied hd _ _ _ => rw [hd] at h; cases h
  | moved _ _ hd _ _ hb =>
      rw [hd] at h
      cases h
      exact hb

theorem consistent_step {r : Register} (hr : r.cart.basket.Consistent) (s : Step) :
    (r.step s).1.cart.basket.Consistent := by
  cases r.event_effect s with
  | kept _ _ _ hb => exact hb ▸ hr
  | moved item d _ _ _ hb => exact hr.add hb
  | emptied _ _ _ hb => exact hb ▸ Basket.consistent_empty

theorem consistent_after {r : Register} (hr : r.cart.basket.Consistent) (steps : List Step) :
    (r.after steps).cart.basket.Consistent :=
  run_invariant (fun _ r => r.cart.basket.Consistent) hr (fun _ _ s h => consistent_step h s) steps

end Checkout.Register
