import Checkout.Proofs.Consecutive
import Checkout.Proofs.Exact
import Checkout.Proofs.Reformatting
import Checkout.Proofs.Rows
import Checkout.Proofs.Strip
import Mathlib.Algebra.Order.BigOperators.Group.List

namespace Checkout

namespace Table

variable {α : Type} {t : Table α}

theorem mem_insert {name : Text} {v : α} {e : Text × α} (h : e ∈ t.insert name v) :
    e = (name, v) ∨ e ∈ t := by
  induction t with
  | nil => exact .inl (List.mem_singleton.mp h)
  | cons e' t ih =>
      rw [insert] at h
      split at h
      · exact (List.mem_cons.mp h).imp_right (List.mem_cons_of_mem e')
      · rcases List.mem_cons.mp h with rfl | h
        · exact .inr List.mem_cons_self
        · exact (ih h).imp_right (List.mem_cons_of_mem e')

theorem mem_of_get? {name : Text} {v : α} (h : t.get? name = some v) : (name, v) ∈ t := by
  obtain ⟨before, after, rfl, _⟩ := List.lookup_eq_some_iff.mp h
  exact List.mem_append_right before List.mem_cons_self

end Table

namespace Catalog

structure Listed (e : Text × Option Int) : Prop where
  name_ne : e.1 ≠ []
  name_bare : Text.strip e.1 = e.1
  price : ∃ n, e.2 = some n ∧ 0 ≤ n

theorem rows_listed {header : Csv.Record} {c : Columns} {prices table : PriceTable} {row : Nat}
    {records : List Csv.Record} (hprices : ∀ e ∈ prices, Listed e)
    (h : rows header c prices row records = .ok table) : ∀ e ∈ table, Listed e := by
  fun_induction rows header c prices row records with
  | case1 =>
      cases h
      exact hprices
  | case2 _ _ _ _ _ _ ih => exact ih hprices h
  | case3 => cases h
  | case4 prices row record records name hname price hprice ih =>
      refine ih ?_ h
      intro e he
      rcases Table.mem_insert he with rfl | he
      · exact ⟨hname, Text.trim_of_bare (Text.bare_trim _ _), price, rfl,
          (price?_eq_some.mp hprice).2⟩
      · exact hprices e he

theorem ofRecords_listed {header : Csv.Record} {records : List Csv.Record} {table : PriceTable}
    (h : ofRecords header records = .ok table) : ∀ e ∈ table, Listed e := by
  rw [ofRecords] at h
  split at h
  · cases h
  · exact rows_listed (List.forall_mem_nil _) h

theorem ofSheet_eq_ok {s : Csv.Sheet} {table : PriceTable} (h : ofSheet s = .ok table) :
    ∃ header records, s = ⟨header :: records, none⟩ ∧ ofRecords header records = .ok table := by
  rcases s with ⟨_ | ⟨header, records⟩, fault⟩
  · cases fault <;> cases h
  · simp only [ofSheet] at h
    cases hrecords : ofRecords header records with
    | error f =>
        rw [hrecords] at h
        cases h
    | ok table' =>
        rw [hrecords] at h
        cases fault with
        | some f => cases h
        | none =>
            cases h
            exact ⟨header, records, rfl, hrecords⟩

theorem load_listed {opener : Opener} {path : Text} {table : PriceTable}
    (h : load opener path = .ok table) : ∀ e ∈ table, Listed e := by
  rw [load] at h
  split at h
  · cases h
  · obtain ⟨_, _, _, hrecords⟩ := ofSheet_eq_ok h
    exact ofRecords_listed hrecords

inductive Provided : PriceTable → Prop
  | standard : Provided .standard
  | loaded {opener : Opener} {path : Text} {table : PriceTable}
      (h : load opener path = .ok table) : Provided table

theorem Provided.listed {table : PriceTable} (h : Provided table) : ∀ e ∈ table, Listed e := by
  cases h with
  | standard =>
      rw [PriceTable.standard, List.forall_mem_cons, List.forall_mem_singleton]
      exact ⟨⟨by decide, by decide, 100, rfl, by decide⟩, ⟨by decide, by decide, 200, rfl, by decide⟩⟩
  | loaded h => exact load_listed h

theorem Provided.price_nonneg {table : PriceTable} (h : Provided table) (item : Text) :
    0 ≤ table.price item := by
  rw [PriceTable.price]
  cases hitem : table.get? item with
  | none => exact Int.le_refl 0
  | some price =>
      obtain ⟨n, rfl, hn⟩ := (h.listed _ (Table.mem_of_get? hitem)).price
      exact hn

end Catalog

namespace Amount

theorem minus_not_mem {minor : Int} (hminor : 0 ≤ minor) {amount : Text}
    (h : text? minor = some amount) : '-' ∉ amount := by
  cases (exists_text (lt_bound_of_text h)).symm.trans h
  exact mt (minus_mem_iff minor).mp (Int.not_lt.mpr hminor)

end Amount

namespace Cart

variable {c : Cart} {prices : PriceTable}

theorem receipt_charges (hc : c.basket.Consistent) (hprices : ∀ item, 0 ≤ prices.price item)
    {r : Receipt} (h : (c.receipt prices).2 = some r) {l : Receipt.Line} (hl : l ∈ r.lines) :
    1 ≤ l.quantity ∧ 0 ≤ l.unitPrice ∧ 0 ≤ l.total := by
  obtain ⟨he, hunit⟩ := c.receipt_billed prices h hl
  have hquantity : 0 < l.quantity := hc.billed_positive he
  have hprice := hprices l.item
  rw [← hunit] at hprice
  exact ⟨hquantity, hprice, Int.mul_nonneg hprice (Int.le_of_lt hquantity)⟩

theorem receipt_total_le (hc : c.basket.Consistent) (hprices : ∀ item, 0 ≤ prices.price item)
    {r : Receipt} (h : (c.receipt prices).2 = some r) :
    0 ≤ r.total ∧ ∀ l ∈ r.lines, l.total ≤ r.total := by
  have hnonneg : ∀ n ∈ r.lines.map (·.total), 0 ≤ n := by
    intro n hn
    obtain ⟨l, hl, rfl⟩ := List.mem_map.mp hn
    exact (receipt_charges hc hprices h hl).2.2
  rw [receipt_total_lines h]
  exact ⟨List.sum_nonneg hnonneg, fun l hl =>
    List.single_le_sum hnonneg _ (List.mem_map_of_mem hl)⟩

theorem receipt_line_text {r : Receipt} (h : (c.receipt prices).2 = some r) {l : Receipt.Line}
    (hl : l ∈ r.lines) :
    ∃ quantity amount, Numeral.write? l.quantity = some quantity ∧
      Amount.text? l.total = some amount ∧
      (l.text = Receipt.blank ∨
        Template.fill ⟨quantity, l.item, r.symbol ++ amount⟩ c.lineFormat = .ok l.text) := by
  obtain ⟨v, hv⟩ := Option.ne_none_iff_exists'.mp (receipt_line_values h hl)
  obtain ⟨quantity, amount, hquantity, hamount, rfl⟩ := LineFormat.values?_eq_some hv
  refine ⟨quantity, amount, hquantity, hamount, ?_⟩
  rcases receipt_line_cases h hl with ⟨_, _, hblank⟩ | ⟨_, _, hrender⟩
  · exact .inl hblank
  · rw [LineFormat.render_eq_ok hv, ← c.receipt_symbol prices h] at hrender
    exact .inr hrender

end Cart

namespace Register

def Step.setsPrice : Step → Bool
  | .setPrice _ _ => true
  | _ => false

theorem prices_step {r : Register} {s : Step} (hs : s.setsPrice = false) :
    (r.step s).1.prices = r.prices := by
  cases s with
  | add item d => exact congrArg Prod.snd (setup_scan r (s := .add item d) nofun)
  | remove item n => exact congrArg Prod.snd (setup_scan r (s := .remove item n) nofun)
  | receipt | printToRoll | printToStream => exact congrArg Prod.snd (setup_bills r rfl)
  | unitsOf | contains | clear | setFormat | setConsume => rfl
  | setPrice => cases hs

/-- No price that is read from a file is below nothing, nor is any that is at hand without one, and
no name of them is empty or stands in white space. With such prices nothing is ever paid out, on
whatever receipt and whatever was taken back before it: each line is for one unit or more, at an
amount that is not below nothing and within the total, and no amount is printed with a minus sign of
its own. -/
theorem provided_never_negative {table : PriceTable} (h : Catalog.Provided table) :
    (∀ e ∈ table, e.1 ≠ [] ∧ Text.strip e.1 = e.1 ∧ ∃ price, e.2 = some price ∧ 0 ≤ price) ∧
    ∀ symbol lineFormat consume (steps : List Step), (∀ s ∈ steps, s.setsPrice = false) →
      ∀ e ∈ (fresh symbol lineFormat consume table).run steps,
      ∀ receipt, e.receipt? = some receipt →
        (∀ l ∈ receipt.lines,
          1 ≤ l.quantity ∧ 0 ≤ l.unitPrice ∧ 0 ≤ l.total ∧ l.total ≤ receipt.total ∧
          ∃ quantity amount, '-' ∉ amount ∧ Numeral.write? l.quantity = some quantity ∧
            Amount.format? receipt.symbol l.total = some (receipt.symbol ++ amount) ∧
            (l.text = ("[BLANK]" : Text) ∨
              Template.fill ⟨quantity, l.item, receipt.symbol ++ amount⟩ e.before.cart.lineFormat =
                .ok l.text)) ∧
        ∃ amount, '-' ∉ amount ∧ receipt.formatted? = some (receipt.symbol ++ amount) ∧
          receipt.printed? = some (receipt.lines.map (·.text) ++
            ["TOTAL PRICE: " ++ (receipt.symbol ++ amount)]) := by
  constructor
  · intro e he
    obtain ⟨hname, hbare, hprice⟩ := h.listed e he
    exact ⟨hname, hbare, hprice⟩
  · intro symbol lineFormat consume steps hsteps e he receipt hreceipt
    obtain ⟨hprices, hc⟩ := run_before
      (P := fun r => r.prices = table ∧ r.cart.basket.Consistent) ⟨rfl, Basket.consistent_empty⟩
      (fun r s hs hr => ⟨(prices_step (hsteps s hs)).trans hr.1, consistent_step hr.2 s⟩) e he
    rw [mem_run he] at hreceipt
    have hmade := receipt_of_event hreceipt
    rw [hprices] at hmade
    obtain ⟨hnonneg, hle⟩ := Cart.receipt_total_le hc h.price_nonneg hmade
    constructor
    · intro l hl
      obtain ⟨hquantity, hprice, htotal⟩ := Cart.receipt_charges hc h.price_nonneg hmade hl
      obtain ⟨quantity, amount, hq, ha, htext⟩ := Cart.receipt_line_text hmade hl
      refine ⟨hquantity, hprice, htotal, hle l hl, quantity, amount,
        Amount.minus_not_mem htotal ha, hq, ?_, htext⟩
      rw [Amount.format?, ha, Option.map_some]
    · obtain ⟨amount, ha, hprinted⟩ := Cart.receipt_printed _ _ hmade
      exact ⟨amount, Amount.minus_not_mem hnonneg ha,
        congrArg (Option.map (receipt.symbol ++ ·)) ha, hprinted⟩

def cupFile : Catalog.Opener := fun _ => .ok (Text.Utf8.encode "name,price\n cup ,0150\ntea,0\n")

def cupVisit : List Step :=
  [.add "cup" 3, .add "tin" 1, .remove "tin" 1, .add "tea" 2, .remove "cup" 2]

def cupBill : Receipt :=
  ⟨"-", [⟨"cup", 1, 150, "cup - 1 - -1.50", true⟩, ⟨"tea", 2, 0, "tea - 2 - -0.00", true⟩], 150⟩

theorem provided_never_negative_cups :
    let table : PriceTable := [("cup", some 150), ("tea", some 0)]
    let start := fresh "-" none true table
    Catalog.load cupFile "p.csv" = .ok table ∧
      (∀ s ∈ cupVisit ++ [.receipt], s.setsPrice = false) ∧
      (∀ e ∈ table, e.1 ≠ [] ∧ Text.strip e.1 = e.1 ∧ ∃ price, e.2 = some price ∧ 0 ≤ price) ∧
      ((start.after cupVisit).event .receipt).receipt? = some cupBill ∧
      (∀ l ∈ cupBill.lines, 1 ≤ l.quantity ∧ 0 ≤ l.total ∧ l.total ≤ cupBill.total) ∧
      ∃ amount, '-' ∉ amount ∧ cupBill.formatted? = some ("-".toList ++ amount) := by
  intro table start
  have hload : Catalog.load cupFile "p.csv" = .ok table := by decide +kernel
  have hsteps : ∀ s ∈ cupVisit ++ [.receipt], s.setsPrice = false := by decide
  obtain ⟨hlisted, hruns⟩ := provided_never_negative (.loaded hload)
  have hmem : (start.after cupVisit).event .receipt ∈ start.run (cupVisit ++ [.receipt]) := by
    rw [run_append]
    exact List.mem_append_right _ List.mem_cons_self
  have hreceipt : ((start.after cupVisit).event .receipt).receipt? = some cupBill := by
    decide +kernel
  obtain ⟨hlines, amount, hamount, hformatted, _⟩ :=
    hruns "-" none true (cupVisit ++ [.receipt]) hsteps _ hmem cupBill hreceipt
  refine ⟨hload, hsteps, hlisted, hreceipt, ?_, amount, hamount, hformatted⟩
  intro l hl
  obtain ⟨hquantity, _, htotal, hle, _⟩ := hlines l hl
  exact ⟨hquantity, htotal, hle⟩

end Register

end Checkout
