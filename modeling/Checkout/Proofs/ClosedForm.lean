import Checkout.Proofs.Run
import Mathlib.Data.List.DropRight

namespace Checkout.Register

/-- The events since the cart was emptied last. -/
def recent (events : List Event) : List Event := events.rtakeWhile (!·.empties)

def deltas (events : List Event) : List (Text × Int) := events.filterMap Event.delta?

def scans (events : List Event) : List Text := events.filterMap Event.scanned?

def net (item : Text) (events : List Event) : Int :=
  (((deltas events).filter (·.1 = item)).map (·.2)).sum

theorem recent_concat (events : List Event) (e : Event) :
    recent (events ++ [e]) = if e.empties then [] else recent events ++ [e] := by
  rw [recent, List.rtakeWhile_concat]
  cases e.empties <;> rfl

theorem deltas_concat (events : List Event) (e : Event) :
    deltas (events ++ [e]) = deltas events ++ e.delta?.toList := by
  rw [deltas, List.filterMap_append, ← deltas]
  cases h : e.delta? <;> simp [h]

theorem net_concat_of_none (item : Text) (events : List Event) {e : Event} (h : e.delta? = none) :
    net item (events ++ [e]) = net item events := by
  simp [net, deltas_concat, h]

theorem net_concat_of_some (item : Text) (events : List Event) {e : Event} {x : Text} {d : Int}
    (h : e.delta? = some (x, d)) :
    net item (events ++ [e]) = net item events + if item = x then d else 0 := by
  by_cases hx : item = x
  · simp [net, deltas_concat, h, hx]
  · simp [net, deltas_concat, h, hx, Ne.symm hx]

theorem eraseDups_concat (items : List Text) (item : Text) :
    (items ++ [item]).eraseDups = Basket.place item items.eraseDups := by
  rw [List.eraseDups_append, Basket.place, List.cons_removeAll]
  by_cases h : item ∈ items
  · simp [h, List.mem_eraseDups]
  · simp [h, List.mem_eraseDups, List.eraseDups_cons]

/-- A basket is what the events since it was emptied last account for. -/
structure Explains (events : List Event) (b : Basket) : Prop where
  consistent : b.Consistent
  units : ∀ item, b.units item = net item (recent events)
  order : b.order = (scans (recent events)).eraseDups

theorem explains_nil : Explains [] .empty :=
  ⟨Basket.consistent_empty, fun _ => rfl, rfl⟩

theorem Explains.next {events : List Event} {r : Register} (h : Explains events r.cart.basket)
    (s : Step) : Explains (events ++ [r.event s]) (r.step s).1.cart.basket := by
  cases r.event_effect s with
  | kept hd hs hr hb =>
      rw [event_after, event_before] at hb
      rw [hb]
      refine ⟨h.consistent, ?_, ?_⟩
      · intro item
        rw [recent_concat, hr, h.units, if_neg (by simp), net_concat_of_none _ _ hd]
      · rw [recent_concat, hr, h.order, if_neg (by simp), scans, scans, List.filterMap_append]
        simp [hs]
  | emptied _ _ hr hb =>
      rw [event_after] at hb
      rw [hb]
      refine ⟨Basket.consistent_empty, ?_, ?_⟩
      · intro item
        rw [recent_concat, hr]
        rfl
      · rw [recent_concat, hr]
        rfl
  | moved item d hd hs hr hb =>
      refine ⟨h.consistent.add hb, ?_, ?_⟩
      · intro other
        rw [recent_concat, hr, if_neg (by simp), net_concat_of_some _ _ hd, ← h.units]
        exact Basket.units_add hb other
      · rw [recent_concat, hr, if_neg (by simp), scans, List.filterMap_append]
        rw [event_before, event_after] at hb
        rw [h.consistent.order_add hb]
        rcases hs with hs | ⟨hs, hneg⟩
        · have hl : [r.event s].filterMap Event.scanned? = [item] := by simp [hs]
          rw [hl, eraseDups_concat, ← scans, ← h.order]
        · -- What is taken back was there before, and so has its place.
          have hl : [r.event s].filterMap Event.scanned? = [] := by simp [hs]
          have hheld : r.cart.basket.holds item := by
            rcases (h.consistent.add_isOk_iff item d).mp ⟨_, hb⟩ with ha | ha
            · exact (h.consistent.holds_iff item).mpr ha.1
            · omega
          rw [hl, List.append_nil, ← scans, ← h.order, Basket.place,
            if_pos (h.consistent.placed item hheld)]

theorem explains_run (symbol : Text) (lineFormat : Option Text) (consume : Bool)
    (prices : PriceTable) (steps : List Step) :
    Explains ((fresh symbol lineFormat consume prices).run steps)
      ((fresh symbol lineFormat consume prices).after steps).cart.basket :=
  run_invariant (fun events r => Explains events r.cart.basket) explains_nil
    (fun _ _ s h => h.next s) steps

theorem step_add_answer {r : Register} (hr : r.cart.basket.Consistent) (item : Text) (d : Int) :
    (r.step (.add item d)).2.result.toOption =
      if 0 < r.cart.basket.units item ∧ 0 ≤ r.cart.basket.units item + d ∨
          r.cart.basket.units item = 0 ∧ 0 < d then
        some (.units (r.cart.basket.units item + d))
      else none := by
  have hstep : r.step (.add item d) = r.scanned item (r.cart.settle (r.cart.basket.add item d)) :=
    rfl
  have hok := hr.add_isOk_iff item d
  rcases r.scanned_cases item (r.cart.basket.add item d) with ⟨b, hb, hs⟩ | ⟨hb, log, f, hs⟩
  · rw [if_pos (hok.mp ⟨b, hb⟩), hstep, hs]
    simp [Except.toOption, Basket.units_add hb]
  · rw [if_neg (fun h => (hok.mpr h).elim hb), hstep, hs]
    rfl

theorem step_remove_answer {r : Register} (hr : r.cart.basket.Consistent) (item : Text) (n : Int) :
    (r.step (.remove item n)).2.result.toOption =
      if 1 ≤ n ∧ n ≤ r.cart.basket.units item then some (.units (r.cart.basket.units item - n))
      else none := by
  have hstep : r.step (.remove item n) =
      r.scanned item (r.cart.settle (r.cart.basket.remove item n)) := rfl
  have hok := hr.add_isOk_iff item (-n)
  have hunits := hr.units_nonneg item
  rcases r.scanned_cases item (r.cart.basket.remove item n) with ⟨b, hb, hs⟩ | ⟨hb, log, f, hs⟩
  · obtain ⟨hn, ha⟩ := Basket.remove_eq_ok.mp hb
    have h := hok.mp ⟨b, ha⟩
    rw [if_pos (by omega), hstep, hs]
    simp [Except.toOption, Basket.units_add ha, Int.sub_eq_add_neg]
  · have hnot : ¬ (1 ≤ n ∧ n ≤ r.cart.basket.units item) := by
      intro h
      obtain ⟨b, ha⟩ := hok.mpr (by omega)
      exact hb b (Basket.remove_eq_ok.mpr ⟨by omega, ha⟩)
    rw [if_neg hnot, hstep, hs]
    rfl

/-- The state of the cart and the fate of the next scan in closed form, from what happened since
the cart was emptied last. -/
theorem run_closed_form (symbol : Text) (lineFormat : Option Text) (consume : Bool)
    (prices : PriceTable) (steps : List Step) :
    let r := (fresh symbol lineFormat consume prices).after steps
    let events := recent ((fresh symbol lineFormat consume prices).run steps)
    (∀ item, r.cart.basket.units item = net item events) ∧
    r.cart.basket.billed = ((scans events).eraseDups.filter (0 < net · events)).map
      (fun item => (item, net item events)) ∧
    (∀ item, (r.cart.basket.holds item ↔ 0 < r.cart.basket.units item) ∧
      (0 < r.cart.basket.units item ↔ item ∈ r.cart.basket.billed.names)) ∧
    r.cart.basket.size = r.cart.basket.billed.length ∧
    (∀ item d, (r.step (.add item d)).2.result.toOption =
      if 0 < r.cart.basket.units item ∧ 0 ≤ r.cart.basket.units item + d ∨
          r.cart.basket.units item = 0 ∧ 0 < d then
        some (.units (r.cart.basket.units item + d))
      else none) ∧
    (∀ item n, (r.step (.remove item n)).2.result.toOption =
      if 1 ≤ n ∧ n ≤ r.cart.basket.units item then some (.units (r.cart.basket.units item - n))
      else none) := by
  intro r events
  have h : Explains _ r.cart.basket := explains_run symbol lineFormat consume prices steps
  have hc := h.consistent
  refine ⟨h.units, ?_, ?_, hc.size_eq, step_add_answer hc, step_remove_answer hc⟩
  · rw [hc.billed_eq, h.order]
    simp only [h.units]
    rfl
  · intro item
    constructor
    · exact hc.holds_iff item
    · rw [hc.mem_billed_names, hc.holds_iff]

/-- An item that was taken back and is scanned again returns to its first place. -/
example : ((fresh "€" none false []).after [.add "tea" 1, .add "cup" 2, .remove "tea" 1,
    .add "tea" 3]).cart.basket.billed.names = ["tea", "cup"].map String.toList := by
  decide +kernel

end Checkout.Register
