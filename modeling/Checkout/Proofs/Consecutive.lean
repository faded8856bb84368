import Checkout.Proofs.ClosedForm
import Checkout.Proofs.Interleaving
import Checkout.Proofs.Printing

namespace Checkout

namespace Basket

theorem place_place (item : Text) (order : List Text) :
    place item (place item order) = place item order := by
  rw [place, if_pos ((mem_place item item order).mpr (.inl rfl))]

theorem prefix_place (item : Text) (order : List Text) : order <+: place item order := by
  rw [place]
  split
  · exact List.prefix_refl order
  · exact List.prefix_append order [item]

theorem filter_place (p : Text → Bool) (item : Text) (order : List Text) :
    (place item order).filter p =
      if p item then place item (order.filter p) else order.filter p := by
  by_cases hi : item ∈ order
  · rw [place, if_pos hi]
    by_cases hp : p item
    · rw [if_pos hp, place, if_pos (List.mem_filter.mpr ⟨hi, hp⟩)]
    · rw [if_neg hp]
  · rw [place, if_neg hi, List.filter_append]
    by_cases hp : p item
    · have hfresh : item ∉ order.filter p := fun h => hi (List.mem_filter.mp h).1
      rw [if_pos hp, place, if_neg hfresh, List.filter_cons_of_pos hp, List.filter_nil]
    · rw [if_neg hp, List.filter_cons_of_neg hp, List.filter_nil, List.append_nil]

theorem Consistent.billed_absent {b : Basket} (hb : b.Consistent) {item : Text}
    (h : ¬ b.holds item) : b.billed.filter (·.1 ≠ item) = b.billed := by
  rw [List.filter_eq_self]
  intro e he
  have hne : e.1 ≠ item := by
    rintro rfl
    exact h ((hb.mem_billed_names e.1).mp (List.mem_map_of_mem he))
  exact decide_eq_true hne

end Basket

namespace Register

theorem order_step {r : Register} (hr : r.cart.basket.Consistent) (s : Step) :
    (r.step s).1.cart.basket.order =
      if (r.event s).empties then []
      else (r.event s).delta?.elim r.cart.basket.order fun d =>
        Basket.place d.1 r.cart.basket.order := by
  cases r.event_effect s with
  | kept hd _ he hb =>
      rw [event_after, event_before] at hb
      rw [hb, hd, he]
      rfl
  | moved item d hd _ he hb =>
      rw [event_after, event_before] at hb
      rw [hr.order_add hb, hd, he]
      rfl
  | emptied _ _ he hb =>
      rw [event_after] at hb
      rw [hb, he]
      rfl

theorem units_step (r : Register) (s : Step) (item : Text) :
    (r.step s).1.cart.basket.units item =
      if (r.event s).empties then 0
      else r.cart.basket.units item +
        (r.event s).delta?.elim 0 fun d => if item = d.1 then d.2 else 0 := by
  cases r.event_effect s with
  | kept hd _ he hb =>
      rw [event_after, event_before] at hb
      rw [hb, hd, he]
      exact (Int.add_zero _).symm
  | moved other d hd _ he hb =>
      rw [event_after, event_before] at hb
      rw [Basket.units_add hb, hd, he]
      rfl
  | emptied _ _ he hb =>
      rw [event_after] at hb
      rw [hb, he]
      rfl

/-- While a cart is not emptied its items keep their places. -/
theorem order_after {r : Register} (hr : r.cart.basket.Consistent) {steps : List Step}
    (h : ∀ e ∈ r.run steps, e.empties = false) :
    r.cart.basket.order <+: (r.after steps).cart.basket.order := by
  induction steps generalizing r with
  | nil => exact List.prefix_refl _
  | cons s steps ih =>
      rw [run, List.forall_mem_cons] at h
      refine List.IsPrefix.trans ?_ (ih (consistent_step hr s) h.2)
      rw [order_step hr, if_neg (by simp [h.1])]
      cases (r.event s).delta? with
      | none => exact List.prefix_refl _
      | some d => exact Basket.prefix_place d.1 _

def setup (r : Register) : Cart × PriceTable := (r.cart.clear, r.prices)

theorem setup_scan (r : Register) {s : Step} (hs : s.item? ≠ none) :
    (r.step s).1.setup = r.setup := by
  obtain ⟨b, hb⟩ := step_scan (r := r) hs
  rw [hb]
  rfl

theorem setup_bills (r : Register) {s : Step} (hs : s.bills) : (r.step s).1.setup = r.setup := by
  cases hr : (r.cart.receipt r.prices).2 with
  | none => rw [(event_unbilled hr hs).2]
  | some receipt =>
      obtain ⟨_, hcart, hprices⟩ := event_billed hr hs
      rw [setup, hcart, hprices, Cart.afterReceipt]
      split <;> rfl

theorem setup_step {r r' : Register} (h : r.setup = r'.setup) (s : Step) :
    (r.step s).1.setup = (r'.step s).1.setup := by
  have hscan {s : Step} (hs : s.item? ≠ none) : (r.step s).1.setup = (r'.step s).1.setup := by
    rw [setup_scan r hs, setup_scan r' hs, h]
  cases s with
  | add | remove => exact hscan (Option.some_ne_none _)
  | receipt | printToRoll | printToStream => rw [setup_bills r rfl, setup_bills r' rfl, h]
  | unitsOf | contains | clear => exact h
  | setFormat template => exact congrArg (fun u => ({ u.1 with lineFormat := template }, u.2)) h
  | setConsume on => exact congrArg (fun u => ({ u.1 with consume := on }, u.2)) h
  | setPrice item price => exact congrArg (fun u => (u.1, Table.insert item price u.2)) h

/-- Two registers that differ at most in the places of items, and in those of one kind not even
there. -/
structure Matches (p : Text → Bool) (r r' : Register) : Prop where
  setup : r.setup = r'.setup
  consistent : r.cart.basket.Consistent
  consistent' : r'.cart.basket.Consistent
  units : ∀ item, r.cart.basket.units item = r'.cart.basket.units item
  order : r.cart.basket.order.filter p = r'.cart.basket.order.filter p

namespace Matches

variable {p : Text → Bool} {r r' : Register}

theorem held (h : Matches p r r') (item : Text) :
    r.cart.basket.quantities.get? item = r'.cart.basket.quantities.get? item := by
  rw [h.consistent.get?_eq, h.consistent'.get?_eq, h.units]

theorem cart_eq (h : Matches p r r') :
    r'.cart = { r.cart with basket := r'.cart.basket } ∧ r'.prices = r.prices := by
  obtain ⟨hcart, hprices⟩ := Prod.mk.inj h.setup
  exact ⟨congrArg (fun c : Cart => { c with basket := r'.cart.basket }) hcart.symm, hprices.symm⟩

theorem billed (h : Matches p r r') :
    r.cart.basket.billed.filter (p ·.1) = r'.cart.basket.billed.filter (p ·.1) := by
  have hfilter (b : Basket) (hb : b.Consistent) : b.billed.filter (p ·.1) =
      ((b.order.filter p).filter (0 < b.units ·)).map fun item => (item, b.units item) := by
    rw [hb.billed_eq, List.filter_map, List.filter_filter, List.filter_filter]
    simp only [Function.comp_def, Bool.and_comm]
  rw [hfilter _ h.consistent, hfilter _ h.consistent', h.order]
  simp only [h.units]

/-- What is billed does not hang on the places, and so a receipt is made in both or in neither. -/
theorem receipt_isSome (h : Matches p r r') :
    (r.cart.receipt r.prices).2.isSome = (r'.cart.receipt r'.prices).2.isSome := by
  obtain ⟨hcart, hprices⟩ := h.cart_eq
  have hperm := h.consistent.billed_perm h.consistent' h.held
  rw [hcart, hprices]
  rcases Cart.receipt_perm (c := r.cart) h.consistent h.consistent' hperm r.prices with
    ⟨hr, hr'⟩ | ⟨receipt, lines, hr, hr', _⟩
  · exact (congrArg Option.isSome hr).trans (congrArg Option.isSome hr').symm
  · exact (congrArg Option.isSome hr).trans (congrArg Option.isSome hr').symm

theorem delta?_eq (h : Matches p r r') (s : Step) : (r.event s).delta? = (r'.event s).delta? := by
  have hscan (item : Text) (hs : s.item? = some item) :
      (r.event s).delta? = (r'.event s).delta? := by
    have hreply := (step_alike (h.held item) hs).1
    simp only [Event.delta?, event, hreply]
  cases s with
  | add item d => exact hscan item rfl
  | remove item n => exact hscan item rfl
  | _ => rfl

theorem empties_eq (h : Matches p r r') (s : Step) :
    (r.event s).empties = (r'.event s).empties := by
  have hconsume : r'.cart.consume = r.cart.consume := by rw [h.cart_eq.1]
  have hdrained : (r.event s).drained?.isSome = (r'.event s).drained?.isSome := by
    simp only [Event.drained?, event_before, event_receipt?, hconsume]
    split
    · split
      · exact h.receipt_isSome
      · rfl
    · rfl
  rw [Event.empties, Event.empties, hdrained]
  rfl

theorem step (h : Matches p r r') (s : Step) : Matches p (r.step s).1 (r'.step s).1 where
  setup := setup_step h.setup s
  consistent := consistent_step h.consistent s
  consistent' := consistent_step h.consistent' s
  units item := by rw [units_step, units_step, h.empties_eq, h.delta?_eq, h.units]
  order := by
    rw [order_step h.consistent, order_step h.consistent', h.empties_eq, h.delta?_eq]
    split
    · rfl
    · cases (r'.event s).delta? with
      | none => exact h.order
      | some d =>
          change (Basket.place d.1 _).filter p = (Basket.place d.1 _).filter p
          rw [Basket.filter_place, Basket.filter_place, h.order]

theorem after (h : Matches p r r') (steps : List Step) :
    Matches p (r.after steps) (r'.after steps) := by
  induction steps generalizing r r' with
  | nil => exact h
  | cons s steps ih => exact ih (h.step s)

theorem billed_eq (h : Matches (fun _ => true) r r') :
    r.cart.basket.billed = r'.cart.basket.billed := by
  have hbilled := h.billed
  rwa [List.filter_eq_self.mpr (by simp), List.filter_eq_self.mpr (by simp)] at hbilled

/-- Where the places are the same as well, no step tells two registers apart. -/
theorem reply_eq (h : Matches (fun _ => true) r r') (hroll : r.roll = r'.roll) (s : Step) :
    (r.step s).2 = (r'.step s).2 := by
  have hbills {s : Step} (hs : s.bills) : (r.step s).2 = (r'.step s).2 := by
    obtain ⟨hcart, hprices⟩ := h.cart_eq
    refine step_bills_congr ?_ hroll hs
    rw [hprices]
    exact r'.cart.receipt_layout r.prices (by rw [hcart]) (by rw [hcart]) h.billed_eq
  have hdone {a a' : Answer} (ha : a = a') : (r.done a).2 = (r'.done a').2 := by
    rw [ha]
    rfl
  cases s with
  | add item | remove item => exact (step_alike (h.held item) rfl).1
  | receipt | printToRoll | printToStream => exact hbills rfl
  | unitsOf item => exact hdone (congrArg Answer.units (h.units item))
  | contains item =>
      have hholds : r.cart.basket.holds item = r'.cart.basket.holds item := by
        rw [Basket.holds, Basket.holds, h.held]
      exact hdone (congrArg Answer.holds hholds)
  | clear | setFormat | setConsume | setPrice => rfl

theorem replies_eq (h : Matches (fun _ => true) r r') (hroll : r.roll = r'.roll)
    (steps : List Step) : (r.run steps).map (·.reply) = (r'.run steps).map (·.reply) := by
  induction steps generalizing r r' with
  | nil => rfl
  | cons s steps ih =>
      have hreply := h.reply_eq hroll s
      have hreceipt : (r.event s).receipt? = (r'.event s).receipt? :=
        congrArg (fun reply : Reply => reply.result.toOption.bind Answer.receipt?) hreply
      have hnext : (r.step s).1.roll = (r'.step s).1.roll := by
        rw [step_roll, step_roll, hroll, Event.rolled, Event.rolled, hreceipt]
        rfl
      exact congrArg₂ List.cons hreply (ih (h.step s) hnext)

end Matches

structure Same (r r' : Register) : Prop where
  held : ∀ item, r.cart.basket.quantities.get? item = r'.cart.basket.quantities.get? item
  order : r.cart.basket.order = r'.cart.basket.order
  setup : r.setup = r'.setup
  roll : r.roll = r'.roll

/-- Two registers that answer and log the same on whatever steps follow, and hold the same items in
the same order afterwards. -/
def Indistinguishable (r r' : Register) : Prop :=
  ∀ later, (r.run later).map (·.reply) = (r'.run later).map (·.reply) ∧
    (r.after later).cart.basket.billed = (r'.after later).cart.basket.billed

theorem Same.indistinguishable {r r' : Register} (h : Same r r')
    (hr : r.cart.basket.Consistent) (hr' : r'.cart.basket.Consistent) : Indistinguishable r r' := by
  have hmatches : Matches (fun _ => true) r r' :=
    ⟨h.setup, hr, hr', fun item => by rw [Basket.units, Basket.units, h.held], by rw [h.order]⟩
  intro later
  exact ⟨hmatches.replies_eq h.roll later, (hmatches.after later).billed_eq⟩

def ScansOf (item : Text) (events : List Event) : Prop :=
  ∀ e ∈ events, e.delta?.map (·.1) = some item

instance (item : Text) (events : List Event) : Decidable (ScansOf item events) :=
  inferInstanceAs (Decidable (∀ e ∈ events, e.delta?.map (·.1) = some item))

structure Scanned (item : Text) (events : List Event) (r r' : Register) : Prop where
  setup : r'.setup = r.setup
  roll : r'.roll = r.roll
  consistent : r'.cart.basket.Consistent
  units : ∀ other, r'.cart.basket.units other =
    r.cart.basket.units other + if other = item then net item events else 0
  order : r'.cart.basket.order =
    if events = [] then r.cart.basket.order else Basket.place item r.cart.basket.order

namespace Scanned

variable {item : Text} {events : List Event} {r r' : Register}

theorem nil (item : Text) (hr : r.cart.basket.Consistent) : Scanned item [] r r :=
  ⟨rfl, rfl, hr, fun other => by simp [net, deltas], rfl⟩

theorem next (h : Scanned item events r r') {s : Step} {d : Int}
    (hd : (r'.event s).delta? = some (item, d)) :
    Scanned item (events ++ [r'.event s]) r (r'.step s).1 := by
  have hb := add_of_delta? hd
  have hitem : s.item? ≠ none := by
    rw [← event_step r' s, Event.item?_of_delta? hd]
    nofun
  obtain ⟨b, hstep⟩ := step_scan (r := r') hitem
  refine ⟨(setup_scan r' hitem).trans h.setup, ?_, h.consistent.add hb, ?_, ?_⟩
  · rw [hstep]
    exact h.roll
  · intro other
    rw [Basket.units_add hb, h.units, net_concat_of_some item events hd]
    by_cases ho : other = item <;> simp [ho, Int.add_assoc]
  · rw [h.consistent.order_add hb, h.order, if_neg (List.concat_ne_nil _ _)]
    split
    · rfl
    · exact Basket.place_place item _

theorem run (hr : r.cart.basket.Consistent) {steps : List Step}
    (h : ScansOf item (r.run steps)) : Scanned item (r.run steps) r (r.after steps) := by
  revert h
  refine run_invariant (fun events r' => ScansOf item events → Scanned item events r r')
    (fun _ => nil item hr) ?_ steps
  intro events r' s ih h
  obtain ⟨hevents, hlast⟩ := List.forall_mem_append.mp h
  obtain ⟨⟨_, d⟩, hd, rfl⟩ := Option.map_eq_some_iff.mp (hlast _ List.mem_cons_self)
  exact (ih hevents).next hd

theorem same (h : Scanned item events r r') {events' : List Event} {r'' : Register}
    (h' : Scanned item events' r r'') (hnet : net item events = net item events')
    (horder : r'.cart.basket.order = r''.cart.basket.order) :
    Same r' r'' ∧ Indistinguishable r' r'' := by
  have hsame : Same r' r'' := by
    refine ⟨?_, horder, h.setup.trans h'.setup.symm, h.roll.trans h'.roll.symm⟩
    intro other
    rw [h.consistent.get?_eq, h'.consistent.get?_eq, h.units, h'.units, hnet]
  exact ⟨hsame, hsame.indistinguishable h.consistent h'.consistent⟩

end Scanned

theorem result_eq_ok {s : Step} {r : Register} {a : Answer}
    (h : (r.step s).2.result.toOption = some a) : (r.step s).2.result = .ok a := by
  cases hr : (r.step s).2.result with
  | error f => rw [hr] at h; cases h
  | ok a' => rw [hr] at h; cases h; rfl

variable {r : Register} {item : Text}

theorem add_accepted (hr : r.cart.basket.Consistent) (item : Text) (d : Int)
    (h : 0 < r.cart.basket.units item ∧ 0 ≤ r.cart.basket.units item + d ∨
      r.cart.basket.units item = 0 ∧ 0 < d) :
    (r.step (.add item d)).2.result = .ok (.units (r.cart.basket.units item + d)) ∧
      (r.event (.add item d)).delta? = some (item, d) := by
  have hok := result_eq_ok ((step_add_answer hr item d).trans (if_pos h))
  exact ⟨hok, by simp only [Event.delta?, event, hok]⟩

theorem remove_accepted (hr : r.cart.basket.Consistent) {n : Int}
    (h : 1 ≤ n ∧ n ≤ r.cart.basket.units item) :
    (r.event (.remove item n)).delta? = some (item, -n) := by
  have hok := result_eq_ok ((step_remove_answer hr item n).trans (if_pos h))
  simp only [Event.delta?, event, hok]

/-- Accepted scans of an item come to the one scan that moves their sum, in the state that they
lead to and in all that follows. -/
theorem Scanned.collapse (hr : r.cart.basket.Consistent) {events : List Event} {r' : Register}
    (h : Scanned item events r r') (hevents : events ≠ [])
    (hd : 0 < r.cart.basket.units item ∨ 0 < net item events) :
    (r.step (.add item (net item events))).2.result =
        .ok (.units (r.cart.basket.units item + net item events)) ∧
      Same r' (r.step (.add item (net item events))).1 ∧
      Indistinguishable r' (r.step (.add item (net item events))).1 := by
  have hunits := h.units item
  have hbefore := hr.units_nonneg item
  have hafter := h.consistent.units_nonneg item
  rw [if_pos rfl] at hunits
  obtain ⟨hok, hdelta⟩ := add_accepted hr item (net item events) (by omega)
  have hone := (Scanned.nil item hr).next hdelta
  refine ⟨hok, h.same hone ?_ ?_⟩
  · rw [net_concat_of_some item [] hdelta, if_pos rfl]
    exact (Int.zero_add _).symm
  · rw [h.order, hone.order, if_neg hevents, if_neg (List.concat_ne_nil _ _)]

/-- Scans of an item that put in as much as they take out leave no trace where it has its place. -/
theorem Scanned.restore (hr : r.cart.basket.Consistent) {events : List Event} {r' : Register}
    (h : Scanned item events r r') (hd : net item events = 0) (hplace : item ∈ r.cart.basket.order) :
    Same r' r ∧ Indistinguishable r' r := by
  refine h.same (.nil item hr) hd ?_
  rw [h.order, Basket.place, if_pos hplace, ite_self]

/-- Where they leave none of an item that was not held, they do no more than to give it a place. -/
theorem Scanned.matches (hr : r.cart.basket.Consistent) {events : List Event} {r' : Register}
    (h : Scanned item events r r') (hd : net item events = 0) :
    Matches (· ≠ item) r' r where
  setup := h.setup
  consistent := h.consistent
  consistent' := hr
  units other := by rw [h.units, hd, ite_self, Int.add_zero]
  order := by
    rw [h.order]
    split
    · rfl
    · rw [Basket.filter_place, if_neg (by simp)]

/-- Scans of one item in a row come to one scan. Where the item was in the cart, or they put more
in than they take out, they lead to the state to which a scan of their sum leads, which is
accepted; taking units out and putting them in again changes nothing. Where they take out all that
they put in, the item has a place afterwards, that of before or a new one, which it keeps until the
cart is emptied, and nothing else has changed. -/
theorem consecutive_collapse (symbol : Text) (lineFormat : Option Text) (consume : Bool)
    (prices : PriceTable) (before : List Step) (item : Text) :
    let r := (fresh symbol lineFormat consume prices).after before
    let basket := r.cart.basket
    (∀ steps, steps ≠ [] → ScansOf item (r.run steps) →
      let d := net item (r.run steps)
      let after := r.after steps
      let one := (r.step (.add item d)).1
      (basket.holds item ∨ 0 < d →
        (r.step (.add item d)).2.result = .ok (.units (basket.units item + d)) ∧
          Same after one ∧ Indistinguishable after one) ∧
      (¬ basket.holds item → 0 ≤ d) ∧
      (¬ basket.holds item → d = 0 →
        after.cart.basket.billed = basket.billed ∧
        (item ∈ basket.order → Same after r ∧ Indistinguishable after r) ∧
        ∀ later,
          let there := (after.after later).cart.basket
          let here := (r.after later).cart.basket
          (∀ other, there.units other = here.units other) ∧
          there.billed.filter (·.1 ≠ item) = here.billed.filter (·.1 ≠ item) ∧
          ((∀ e ∈ after.run later, e.empties = false) →
            Basket.place item basket.order <+: there.order ∧
              there.billed.names = there.order.filter (there.holds ·)))) ∧
    (∀ n, 1 ≤ n → n ≤ basket.units item →
      let steps := [.remove item n, .add item n]
      ScansOf item (r.run steps) ∧ Same (r.after steps) r ∧
        Indistinguishable (r.after steps) r) := by
  intro r basket
  have hr : basket.Consistent :=
    consistent_after (r := fresh symbol lineFormat consume prices) Basket.consistent_empty before
  refine ⟨?_, ?_⟩
  · intro steps hsteps h d after one
    have hscanned : Scanned item (r.run steps) r after := .run hr h
    have hevents : r.run steps ≠ [] := by
      intro hnil
      rw [← run_steps r steps, hnil] at hsteps
      exact hsteps rfl
    refine ⟨?_, ?_, ?_⟩
    · intro hd
      rw [hr.holds_iff] at hd
      exact hscanned.collapse hr hevents hd
    · intro hn
      have hunits := hscanned.units item
      have hafter := hscanned.consistent.units_nonneg item
      have hbefore : ¬ 0 < r.cart.basket.units item := mt (hr.holds_iff item).mpr hn
      rw [if_pos rfl] at hunits
      omega
    · intro hn hd
      refine ⟨?_, hscanned.restore hr hd, ?_⟩
      · have hmatches := hscanned.matches hr hd
        have hn' : ¬ after.cart.basket.holds item := by
          rwa [hscanned.consistent.holds_iff, hmatches.units, ← hr.holds_iff]
        rw [← hscanned.consistent.billed_absent hn', ← hr.billed_absent hn]
        exact hmatches.billed
      · intro later there here
        have hlater := (hscanned.matches hr hd).after later
        refine ⟨hlater.units, hlater.billed, ?_⟩
        intro hkept
        refine ⟨?_, there.billed_names⟩
        have horder := hscanned.order
        rw [if_neg hevents] at horder
        rw [← horder]
        exact order_after hscanned.consistent hkept
  · intro n hn hunits steps
    have hremove := remove_accepted (r := r) hr ⟨hn, hunits⟩
    have hone := (Scanned.nil item hr).next hremove
    have hleft : (r.step (.remove item n)).1.cart.basket.units item = basket.units item - n := by
      rw [hone.units, if_pos rfl, net_concat_of_some item [] hremove, if_pos rfl]
      exact congrArg (basket.units item + ·) (Int.zero_add (-n))
    obtain ⟨_, hadd⟩ := add_accepted hone.consistent item n (by omega)
    have hscans : ScansOf item (r.run steps) := by simp [ScansOf, steps, run, hremove, hadd]
    have hnet : net item (r.run steps) = 0 := by simp [net, deltas, steps, run, hremove, hadd]
    exact ⟨hscans, (Scanned.run hr hscans).restore hr hnet
      (hr.placed item ((hr.holds_iff item).mpr (by omega)))⟩

/-- All tea goes back and comes again, and a tin comes and goes. -/
theorem consecutive_collapse_tea :
    let r := (fresh "€" none false []).after [.add "tea" 2, .add "cup" 1]
    let tea : List Step := [.add "tea" 1, .remove "tea" 3, .add "tea" 7, .add "tea" (-2)]
    let tin : List Step := [.add "tin" 4, .remove "tin" 4]
    ScansOf "tea" (r.run tea) ∧ net "tea" (r.run tea) = 3 ∧
      (r.step (.add "tea" 3)).2.result = .ok (.units 5) ∧
      Same (r.after tea) (r.step (.add "tea" 3)).1 ∧
      ScansOf "tin" (r.run tin) ∧ net "tin" (r.run tin) = 0 ∧
      (r.after tin).cart.basket.billed = r.cart.basket.billed ∧
      Same (r.after [.remove "tea" 2, .add "tea" 2]) r := by
  intro r tea tin
  have htea : ScansOf "tea" (r.run tea) := by decide +kernel
  have htin : ScansOf "tin" (r.run tin) := by decide +kernel
  obtain ⟨hmany, hagain⟩ := consecutive_collapse "€" none false []
    [.add "tea" 2, .add "cup" 1] "tea"
  obtain ⟨hok, hsame, _⟩ := (hmany tea (List.cons_ne_nil _ _) htea).1 (.inl (by decide +kernel))
  obtain ⟨_, _, hgone⟩ := (consecutive_collapse "€" none false []
    [.add "tea" 2, .add "cup" 1] "tin").1 tin (List.cons_ne_nil _ _) htin
  have hnet : net "tea" (r.run tea) = 3 := by decide +kernel
  have hnone : net "tin" (r.run tin) = 0 := by decide +kernel
  rw [hnet] at hok hsame
  exact ⟨htea, hnet, hok, hsame, htin, hnone, (hgone (by decide +kernel) hnone).1,
    (hagain 2 (by decide) (by decide +kernel)).2.1⟩

end Register

end Checkout
