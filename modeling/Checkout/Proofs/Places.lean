import Checkout.Proofs.ClosedForm
import Mathlib.Data.Finset.Card

namespace Checkout

theorem Basket.Consistent.entry {b : Basket} (hb : b.Consistent) {e : Text × Int}
    (he : e ∈ b.quantities) : 0 < e.2 ∧ e.1 ∈ b.order := by
  have hget : b.quantities.get? e.1 = some e.2 := Table.get?_of_mem hb.names_nodup he
  exact ⟨hb.positive e.1 e.2 hget, hb.placed e.1 (by simp [holds, hget])⟩

namespace Register

def Step.added? : Step → Option Text
  | .add item _ => some item
  | _ => none

theorem Event.added?_of_scanned? {e : Event} {item : Text} (h : e.scanned? = some item) :
    e.step.added? = some item := by
  rw [Event.scanned?] at h
  split at h
  · rename_i hstep _
    rw [hstep, Step.added?, h]
  · cases h

theorem mem_added_of_mem_scans {r : Register} {steps : List Step} {item : Text}
    (h : item ∈ scans (r.run steps)) : item ∈ steps.filterMap Step.added? := by
  obtain ⟨e, he, hitem⟩ := List.mem_filterMap.mp h
  have hstep : e.step ∈ steps := by
    rw [← r.run_steps steps]
    exact List.mem_map_of_mem he
  exact List.mem_filterMap.mpr ⟨e.step, hstep, Event.added?_of_scanned? hitem⟩

theorem mem_scans_of_recent {events : List Event} {item : Text}
    (h : item ∈ scans (recent events)) : item ∈ scans events :=
  ((List.rtakeWhile_suffix _ _).sublist.filterMap _).subset h

/-- The two tables of a cart after any steps. What is held is held in a positive number and has a
place. The places are those of the items added since the cart was emptied last, each at its first
scan, so there are no more of them than there are different items to add, however often these were
scanned and dropped. -/
theorem run_places (symbol : Text) (lineFormat : Option Text) (consume : Bool)
    (prices : PriceTable) (steps : List Step) :
    let events := (fresh symbol lineFormat consume prices).run steps
    let b := ((fresh symbol lineFormat consume prices).after steps).cart.basket
    (∀ e ∈ b.quantities, 0 < e.2) ∧
    (∀ e ∈ b.quantities, e.1 ∈ b.order) ∧
    b.quantities.names.Nodup ∧
    b.order.Nodup ∧
    b.order = (scans (recent events)).eraseDups ∧
    b.order.length = (scans (recent events)).toFinset.card ∧
    b.order.length ≤ (steps.filterMap Step.added?).toFinset.card := by
  intro events b
  have h : Explains events b := explains_run symbol lineFormat consume prices steps
  have hb : b.Consistent := h.consistent
  have hset : b.order.toFinset = (scans (recent events)).toFinset := by
    ext item
    rw [h.order, List.mem_toFinset, List.mem_toFinset, List.mem_eraseDups]
  have hlength : b.order.length = (scans (recent events)).toFinset.card := by
    rw [← hset, List.toFinset_card_of_nodup hb.order_nodup]
  refine ⟨fun e he => (hb.entry he).1, fun e he => (hb.entry he).2, hb.names_nodup,
    hb.order_nodup, h.order, hlength, ?_⟩
  rw [hlength]
  apply Finset.card_le_card
  intro item hitem
  rw [List.mem_toFinset] at hitem ⊢
  exact mem_added_of_mem_scans (mem_scans_of_recent hitem)

/-- Tea is scanned and dropped twice, cups are scanned between, and pens after the cart was
cleared. -/
example :
    let r := fresh "€" none false []
    let teaAgain : List Step := [.add "tea" 1, .remove "tea" 1, .add "cup" 2, .add "tea" 1,
      .add "tea" (-1)]
    (r.after teaAgain).cart.basket = ⟨[("cup", 2)], ["tea", "cup"]⟩ ∧
      (r.after (teaAgain ++ [.clear, .add "pen" 0, .add "pen" 1])).cart.basket =
        ⟨[("pen", 1)], ["pen"]⟩ := by
  decide +kernel

end Register

end Checkout
