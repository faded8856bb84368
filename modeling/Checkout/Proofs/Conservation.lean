import Checkout.Proofs.ClosedForm

namespace Checkout

namespace Basket

def weight (w : Text → Int) (b : Basket) : Int := (b.billed.map fun e => w e.1 * e.2).sum

theorem worth_eq_weight (b : Basket) (prices : PriceTable) :
    b.worth prices = b.weight prices.price := rfl

theorem weight_empty (w : Text → Int) : empty.weight w = 0 := rfl

theorem Consistent.weight_eq {b : Basket} (hb : b.Consistent) (w : Text → Int) :
    b.weight w = (b.order.map fun item => w item * b.units item).sum := by
  rw [weight, hb.billed_eq]
  induction b.order with
  | nil => rfl
  | cons item order ih =>
      by_cases h : 0 < b.units item
      · simp [h, ← ih]
      · have hz : b.units item = 0 := by
          have hn := hb.units_nonneg item
          omega
        simp [hz, ← ih]

theorem sum_ite_mem {order : List Text} (h : order.Nodup) (item : Text) (c : Int) :
    (order.map fun x => if x = item then c else 0).sum = if item ∈ order then c else 0 := by
  induction order with
  | nil => rfl
  | cons x order ih =>
      obtain ⟨hx, hn⟩ := List.nodup_cons.mp h
      rw [List.map_cons, List.sum_cons, ih hn]
      by_cases he : x = item
      · rw [← he, if_pos rfl, if_neg hx, if_pos List.mem_cons_self, Int.add_zero]
      · simp [he, Ne.symm he]

theorem Consistent.units_of_not_mem {b : Basket} (hb : b.Consistent) {item : Text}
    (h : item ∉ b.order) : b.units item = 0 := by
  have hn := hb.units_nonneg item
  have hp := mt (fun hu => hb.placed item ((hb.holds_iff item).mpr hu)) h
  omega

theorem Consistent.weight_add {b b' : Basket} (hb : b.Consistent) {item : Text} {d : Int}
    (h : b.add item d = .ok b') (w : Text → Int) : b'.weight w = b.weight w + w item * d := by
  have hsum (order : List Text) (hn : order.Nodup) :
      (order.map fun x => w x * b'.units x).sum =
        (order.map fun x => w x * b.units x).sum + if item ∈ order then w item * d else 0 := by
    rw [← sum_ite_mem hn, ← List.sum_map_add]
    congr 1
    apply List.map_congr_left
    intro x _
    rw [units_add h]
    by_cases hx : x = item <;> simp [hx, Int.mul_add]
  rw [(hb.add h).weight_eq, hb.weight_eq, hb.order_add h]
  by_cases hi : item ∈ b.order
  · rw [place, if_pos hi, hsum _ hb.order_nodup, if_pos hi]
  · rw [hsum _ (nodup_place hb.order_nodup item), if_pos ((mem_place _ _ _).mpr (.inl rfl)), place,
      if_neg hi]
    simp [hb.units_of_not_mem hi]

/-- The units of an item are the weight of the basket where only that item weighs. -/
theorem Consistent.units_eq_weight {b : Basket} (hb : b.Consistent) (item : Text) :
    b.units item = b.weight fun x => if x = item then 1 else 0 := by
  have hsum : (b.order.map fun x => (if x = item then 1 else 0) * b.units x) =
      b.order.map fun x => if x = item then b.units item else 0 := by
    apply List.map_congr_left
    intro x _
    by_cases hx : x = item <;> simp [hx]
  rw [hb.weight_eq, hsum, sum_ite_mem hb.order_nodup]
  by_cases hi : item ∈ b.order
  · rw [if_pos hi]
  · rw [if_neg hi, hb.units_of_not_mem hi]

end Basket

theorem sum_filter {α : Type} (l : List α) (p : α → Prop) [DecidablePred p] (f : α → Int) :
    ((l.filter p).map f).sum = (l.map fun x => (if p x then 1 else 0) * f x).sum := by
  induction l with
  | nil => rfl
  | cons x l ih =>
      rw [List.map_cons, List.sum_cons, ← ih]
      by_cases h : p x <;> simp [h]

namespace Receipt

def weight (w : Text → Int) (r : Receipt) : Int :=
  (r.lines.map fun l => w l.item * l.quantity).sum

def unitsOf (item : Text) (r : Receipt) : Int :=
  ((r.lines.filter (·.item = item)).map (·.quantity)).sum

theorem unitsOf_eq_weight (item : Text) (r : Receipt) :
    r.unitsOf item = r.weight fun x => if x = item then 1 else 0 :=
  sum_filter r.lines (·.item = item) (·.quantity)

end Receipt

theorem Cart.receipt_total {c : Cart} {prices : PriceTable} {r : Receipt}
    (h : (c.receipt prices).2 = some r) : r.total = c.basket.weight prices.price :=
  (c.receipt_bill prices h).2

theorem Cart.receipt_weight {c : Cart} {prices : PriceTable} {r : Receipt}
    (h : (c.receipt prices).2 = some r) (w : Text → Int) : r.weight w = c.basket.weight w := by
  have hb := congrArg (List.map fun x => w x.1 * x.2.1) (c.receipt_bill prices h).1
  rw [List.map_map, List.map_map] at hb
  exact congrArg List.sum hb

namespace Register

def drained (events : List Event) : List Receipt := events.filterMap Event.drained?

theorem drained?_eq_some {r : Register} {s : Step} {receipt : Receipt}
    (h : (r.event s).drained? = some receipt) : (r.cart.receipt r.prices).2 = some receipt := by
  rw [Event.drained?] at h
  split at h
  · exact receipt_of_event h
  · cases h

theorem drained?_eq_none {e : Event} (h : e.empties = false) : e.drained? = none := by
  rw [Event.empties, Bool.or_eq_false_iff] at h
  simpa using h.2

/-- While nothing is cleared away, what was taken out on receipts and what is left weigh together
as much as what was scanned. -/
theorem weight_conserved {r : Register} (hr : r.cart.basket = .empty) (w : Text → Int)
    (steps : List Step) (hc : .clear ∉ steps) :
    ((drained (r.run steps)).map (·.weight w)).sum + (r.after steps).cart.basket.weight w =
      ((deltas (r.run steps)).map fun d => w d.1 * d.2).sum := by
  have hnone : ∀ e ∈ r.run steps, e.step ≠ .clear := by
    intro e he hs
    rw [← run_steps r steps] at hc
    exact hc (List.mem_map.mpr ⟨e, he, hs⟩)
  revert hnone
  refine (run_invariant (fun events r => r.cart.basket.Consistent ∧
    ((∀ e ∈ events, e.step ≠ .clear) →
      ((drained events).map (·.weight w)).sum + r.cart.basket.weight w =
        ((deltas events).map fun d => w d.1 * d.2).sum)) ?_ ?_ steps).2
  · rw [hr]
    exact ⟨Basket.consistent_empty, fun _ => rfl⟩
  · rintro events r s ⟨hb, ih⟩
    refine ⟨consistent_step hb s, ?_⟩
    intro hc
    have ih := ih fun e he => hc e (List.mem_append_left _ he)
    have hs : s ≠ .clear := hc (r.event s) (by simp)
    rw [drained, List.filterMap_append, List.map_append, List.sum_append, ← drained, deltas_concat,
      List.map_append, List.sum_append, ← ih]
    cases r.event_effect s with
    | kept hd _ he hb' =>
        rw [event_after, event_before] at hb'
        simp [hd, drained?_eq_none he, hb']
    | moved item d hd _ he hb' =>
        rw [event_after, event_before] at hb'
        simp [hd, drained?_eq_none he, hb.weight_add hb' w]
        omega
    | emptied hd _ he hb' =>
        have hsome : ∃ receipt, (r.event s).drained? = some receipt := by
          rw [Event.empties, event_step] at he
          simpa [hs, Option.isSome_iff_exists] using he
        obtain ⟨receipt, hreceipt⟩ := hsome
        have hw := Cart.receipt_weight (drained?_eq_some hreceipt) w
        rw [event_after] at hb'
        simp [hd, hreceipt, hb', hw, Basket.weight_empty]

/-- What holds of a register and of all that the steps of a run leave, holds before each of them. -/
theorem before_of_after {r : Register} {P : Register → Prop} (hr : P r) {steps : List Step}
    (ha : ∀ e ∈ r.run steps, P e.after) : ∀ e ∈ r.run steps, P e.before := by
  induction steps generalizing r with
  | nil => exact List.forall_mem_nil _
  | cons s steps ih =>
      rw [run, List.forall_mem_cons] at ha ⊢
      exact ⟨hr, ih ha.1 ha.2⟩

/-- Receipts that empty the cart neither lose nor bill twice what was scanned, as long as nothing
is cleared away: with what is left they make up all accepted changes of each item, and where no
price changes they also make up what these are worth. A receipt that fails takes nothing out. -/
theorem drained_conserved (symbol : Text) (lineFormat : Option Text) (consume : Bool)
    (prices : PriceTable) (steps : List Step) (hc : .clear ∉ steps) :
    let start := fresh symbol lineFormat consume prices
    let events := start.run steps
    let basket := (start.after steps).cart.basket
    (∀ item, ((drained events).map (·.unitsOf item)).sum + basket.units item = net item events) ∧
    (∀ e ∈ events, e.step.bills → ∀ f, e.reply.result = .error f →
      e.drained? = none ∧ e.after = e.before) ∧
    ((∀ e ∈ events, ∀ item, e.after.prices.price item = prices.price item) →
      ((drained events).map (·.total)).sum + basket.worth prices =
        ((deltas events).map fun d => prices.price d.1 * d.2).sum) := by
  intro start events basket
  have hb : basket.Consistent := consistent_after (r := start) Basket.consistent_empty steps
  refine ⟨?_, ?_, ?_⟩
  · intro item
    have hw := weight_conserved (r := start) rfl (fun x => if x = item then 1 else 0) steps hc
    simp only [Receipt.unitsOf_eq_weight]
    rw [hb.units_eq_weight, hw, net, sum_filter]
  · intro e he hs f hf
    have hnone : e.receipt? = none := by rw [Event.receipt?, hf]; rfl
    have hd : e.drained? = none := by rw [Event.drained?, hnone, ite_self]
    rw [mem_run he, event_receipt?, if_pos hs] at hnone
    refine ⟨hd, ?_⟩
    rw [mem_run he]
    exact (event_unbilled hnone hs).2
  · intro hp
    have hbefore : ∀ e ∈ events, ∀ item, e.before.prices.price item = prices.price item :=
      before_of_after (P := fun r => ∀ item, r.prices.price item = prices.price item)
        (fun _ => rfl) hp
    have htotal : (drained events).map (·.total) = (drained events).map (·.weight prices.price) := by
      apply List.map_congr_left
      intro receipt hmem
      obtain ⟨e, he, hd⟩ := List.mem_filterMap.mp hmem
      rw [mem_run he] at hd
      have hsome := drained?_eq_some hd
      rw [Cart.receipt_total hsome, Cart.receipt_weight hsome, funext (hbefore e he)]
    have hw := weight_conserved (r := start) rfl prices.price steps hc
    rw [htotal, Basket.worth_eq_weight, hw]

def day : List Step :=
  [.add "tea" 3, .printToRoll, .add "tea" 4, .add "cup" Numeral.bound, .receipt,
    .remove "cup" (Numeral.bound - 1), .remove "tea" 9, .receipt, .setConsume false, .add "tea" 5,
    .printToStream]

theorem drained_conserved_day :
    let start := fresh "€" none true [("tea", some 150)]
    .clear ∉ day ∧ (drained (start.run day)).map (·.unitsOf "tea") = [3, 4] ∧
      ((drained (start.run day)).map (·.unitsOf "tea")).sum +
        (start.after day).cart.basket.units "tea" = net "tea" (start.run day) := by
  have hc : .clear ∉ day := by simp [day]
  have hd : (drained ((fresh "€" none true [("tea", some 150)]).run day)).map (·.unitsOf "tea") =
      [3, 4] := by decide +kernel
  have h := drained_conserved "€" none true [("tea", some 150)] day hc
  exact ⟨hc, hd, h.1 "tea"⟩

end Register

end Checkout
