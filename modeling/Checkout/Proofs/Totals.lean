import Checkout.Proofs.Amount
import Checkout.Proofs.Conservation
import Checkout.Proofs.LineFormat

namespace Checkout

namespace Cart

variable {c : Cart} {prices other : PriceTable}

theorem lines?_congr {entries : List (Text × Int)}
    (h : ∀ e ∈ entries, other.price e.1 = prices.price e.1) :
    c.lines? other entries = c.lines? prices entries := by
  induction entries with
  | nil => rfl
  | cons e entries ih =>
      obtain ⟨he, hrest⟩ := List.forall_mem_cons.mp h
      have hline : c.line? other e.1 e.2 = c.line? prices e.1 e.2 := by
        simp only [line?, he]
      rw [lines?, lines?, hline, ih hrest]

theorem receipt_congr (h : ∀ item ∈ c.basket.billed.names, other.price item = prices.price item) :
    c.receipt other = c.receipt prices := by
  rw [receipt, receipt, lines?_congr fun e he => h e.1 (List.mem_map_of_mem he)]

theorem receipt_total_lines {r : Receipt} (h : (c.receipt prices).2 = some r) :
    r.total = (r.lines.map (·.total)).sum := by
  obtain ⟨lines, _, rfl, _⟩ := (c.receipt_eq_some prices).mp h
  rw [List.sum_eq_foldr]
  rfl

theorem receipt_reads {r : Receipt} (h : (c.receipt prices).2 = some r) :
    ∃ amount, r.printed? =
        some (r.lines.map (·.text) ++ [Receipt.label ++ (r.symbol ++ amount)]) ∧
      Amount.read? amount = some r.total := by
  obtain ⟨amount, ha, hprinted⟩ := c.receipt_printed prices h
  exact ⟨amount, hprinted, Amount.read?_text ha⟩

end Cart

namespace Register

/-- What is held weighs as much as the accepted changes since the cart was emptied last. -/
theorem weight_recent (symbol : Text) (lineFormat : Option Text) (consume : Bool)
    (prices : PriceTable) (steps : List Step) (w : Text → Int) :
    ((fresh symbol lineFormat consume prices).after steps).cart.basket.weight w =
      ((deltas (recent ((fresh symbol lineFormat consume prices).run steps))).map
        fun d => w d.1 * d.2).sum := by
  refine (run_invariant (fun events r => r.cart.basket.Consistent ∧
    r.cart.basket.weight w = ((deltas (recent events)).map fun d => w d.1 * d.2).sum)
    ⟨Basket.consistent_empty, rfl⟩ ?_ steps).2
  rintro events r s ⟨hb, ih⟩
  refine ⟨consistent_step hb s, ?_⟩
  rw [recent_concat]
  cases r.event_effect s with
  | kept hd _ he hb' =>
      rw [event_after, event_before] at hb'
      simp [he, deltas_concat, hd, hb', ih]
  | moved item d hd _ he hb' =>
      rw [event_after, event_before] at hb'
      simp [he, deltas_concat, hd, hb.weight_add hb', ih]
  | emptied _ _ he hb' =>
      rw [event_after] at hb'
      rw [hb', he]
      rfl

theorem weight_scan {r : Register} (hr : r.cart.basket.Consistent) {s : Step} {item : Text} {d : Int}
    (h : (r.event s).delta? = some (item, d)) (w : Text → Int) :
    (r.step s).1.cart.basket.weight w = r.cart.basket.weight w + w item * d :=
  hr.weight_add (add_of_delta? h) w

theorem prices_scan {r : Register} {s : Step} {item : Text} {d : Int}
    (h : (r.event s).delta? = some (item, d)) : (r.step s).1.prices = r.prices := by
  have hitem := Event.item?_of_delta? h
  obtain ⟨b, hb⟩ := step_scan (r := r) (s := s) (by rw [← event_step r s, hitem]; nofun)
  rw [hb]

/-- A receipt bills the cart as it is: a line for each item that is held, in order, at the price of
the table, and a total that counts all of them. That total is what the accepted changes come to
since the cart was emptied last, each at the present price of its item, and the last line tells it.
Prices of anything else make no difference. -/
theorem receipt_bills_cart (symbol : Text) (lineFormat : Option Text) (consume : Bool)
    (prices : PriceTable) (steps : List Step) (table : PriceTable) :
    let start := fresh symbol lineFormat consume prices
    let r : Register := { start.after steps with prices := table }
    (∀ item, table.price item = ((table.get? item).join).getD 0) ∧
    (∀ s receipt, (r.event s).receipt? = some receipt →
      List.Forall₂ (fun e l => l.item = e.1 ∧ l.quantity = e.2 ∧ l.unitPrice = table.price e.1 ∧
        l.total = l.unitPrice * l.quantity) r.cart.basket.billed receipt.lines ∧
      receipt.total = (receipt.lines.map (·.total)).sum ∧
      receipt.total = ((deltas (recent (start.run steps))).map
        fun d => table.price d.1 * d.2).sum ∧
      ∃ amount, receipt.printed? =
          some (receipt.lines.map (·.text) ++ ["TOTAL PRICE: " ++ (receipt.symbol ++ amount)]) ∧
        Amount.read? amount = some receipt.total) ∧
    (∀ scan item d, (r.event scan).delta? = some (item, d) → ∀ s s' receipt receipt',
      (r.event s).receipt? = some receipt →
      ((r.step scan).1.event s').receipt? = some receipt' →
      receipt'.total = receipt.total + table.price item * d) ∧
    (∀ other : PriceTable,
      (∀ item ∈ r.cart.basket.billed.names, other.price item = table.price item) →
      ∀ s, s.bills → (step { r with prices := other } s).2 = (r.step s).2) := by
  intro start r
  have hr : r.cart.basket.Consistent :=
    consistent_after (r := start) Basket.consistent_empty steps
  refine ⟨?_, ?_, ?_, ?_⟩
  · intro item
    rw [PriceTable.price]
    cases table.get? item <;> rfl
  · intro s receipt h
    have hreceipt := receipt_of_event h
    refine ⟨?_, Cart.receipt_total_lines hreceipt, ?_, Cart.receipt_reads hreceipt⟩
    · apply (Cart.receipt_lines hreceipt).imp
      rintro e l ⟨log, hline⟩
      obtain ⟨hitem, hquantity, hprice⟩ := Cart.line?_bill _ _ hline
      exact ⟨hitem, hquantity, hprice, rfl⟩
    · rw [Cart.receipt_total hreceipt]
      exact weight_recent symbol lineFormat consume prices steps table.price
  · intro scan item d hd s s' receipt receipt' h h'
    rw [Cart.receipt_total (receipt_of_event h), Cart.receipt_total (receipt_of_event h'),
      prices_scan hd, weight_scan hr hd]
  · intro other h s hs
    apply step_bills_congr _ _ hs
    · exact Cart.receipt_congr h
    · rfl

def visit : List Step := [.add "tea" 3, .add "cup" 1, .remove "tea" 3, .add "tea" 2, .add "tin" 1]

def visitTable : PriceTable := [("tea", some (-150)), ("cup", some 250), ("tin", none)]

def visitReceipt : Receipt :=
  ⟨"€", [⟨"tea", 2, -150, "[BLANK]", false⟩, ⟨"cup", 1, 250, "[BLANK]", false⟩,
    ⟨"tin", 1, 0, "[BLANK]", false⟩], -50⟩

theorem receipt_bills_cart_visit :
    let start := fresh "€" (some "<zz>") true []
    let r : Register := { start.after visit with prices := visitTable }
    (r.event .receipt).receipt? = some visitReceipt ∧
      visitReceipt.total = (visitReceipt.lines.map (·.total)).sum ∧
      visitReceipt.total = ((deltas (recent (start.run visit))).map
        fun d => visitTable.price d.1 * d.2).sum ∧
      (r.event (.add "cup" 4)).delta? = some (("cup" : Text), 4) ∧
      ∀ receipt, ((r.step (.add "cup" 4)).1.event .printToRoll).receipt? = some receipt →
        receipt.total = visitReceipt.total + visitTable.price "cup" * 4 := by
  intro start r
  have hr : (r.event .receipt).receipt? = some visitReceipt := by decide +kernel
  have hd : (r.event (.add "cup" 4)).delta? = some (("cup" : Text), 4) := by decide +kernel
  obtain ⟨_, hlines, hscan, _⟩ :=
    receipt_bills_cart "€" (some "<zz>") true [] visit visitTable
  obtain ⟨_, htotal, hdeltas, _⟩ := hlines .receipt visitReceipt hr
  exact ⟨hr, htotal, hdeltas, hd,
    fun receipt h => hscan (.add "cup" 4) "cup" 4 hd .receipt .printToRoll visitReceipt receipt hr h⟩

end Register

end Checkout
