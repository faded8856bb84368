import Checkout.Cart
import Checkout.Proofs.Basket
import Mathlib.Algebra.BigOperators.Group.List.Basic
import Mathlib.Algebra.Order.Ring.Int

namespace Checkout

theorem Numeral.write?_eq_none (n : Int) : write? n = none ↔ bound ≤ n.natAbs := by
  rw [write?]
  split
  · simp; omega
  · simp; omega

theorem Amount.text?_eq_none (minor : Int) :
    text? minor = none ↔ Numeral.bound ≤ minor.natAbs / 100 := by
  rw [text?, Option.map_eq_none_iff, Numeral.write?_eq_none]
  rfl

theorem Numeral.lt_bound_of_write {n : Int} {t : Text} (h : write? n = some t) :
    n.natAbs < bound := by
  rw [← Nat.not_le, ← write?_eq_none, h]
  nofun

theorem Amount.lt_bound_of_text {minor : Int} {t : Text} (h : text? minor = some t) :
    minor.natAbs / 100 < Numeral.bound := by
  rw [← Nat.not_le, ← text?_eq_none, h]
  nofun

theorem LineFormat.values?_eq_none (symbol : Text) (quantity : Int) (name : Text) (price : Int) :
    values? symbol quantity name price = none ↔
      Numeral.bound ≤ quantity.natAbs ∨ Numeral.bound ≤ price.natAbs / 100 := by
  rw [← Numeral.write?_eq_none, ← Amount.text?_eq_none, values?, Amount.format?]
  cases Numeral.write? quantity with
  | none => simp
  | some q => cases Amount.text? price <;> simp

theorem LineFormat.render_eq_longNumeral (symbol : Text) (template : Option Text) (quantity : Int)
    (name : Text) (price : Int) :
    render symbol template quantity name price = .error .longNumeral ↔
      values? symbol quantity name price = none := by
  rw [render]
  cases values? symbol quantity name price with
  | none => simp
  | some v => cases h : Template.fill v template <;> simp [h]

theorem Receipt.printed?_eq (r : Receipt) :
    r.printed? = r.amount?.map fun a => r.lines.map (·.text) ++ [label ++ (r.symbol ++ a)] := by
  rw [printed?, totalLine?, formatted?, Amount.format?, Option.map_map, Option.map_map]
  rfl

def Basket.worth (b : Basket) (prices : PriceTable) : Int :=
  (b.billed.map fun e => prices.price e.1 * e.2).sum

namespace Cart

variable (c : Cart) (prices : PriceTable)

/-- A scan of which the basket says what it comes to: the cart takes it over, or stays as it is. -/
theorem settle_cases (found : Except Basket.Refused Basket) :
    (∃ b, found = .ok b ∧ c.settle found = ([], .ok { c with basket := b })) ∨
      ((∀ b, found ≠ .ok b) ∧ ∃ log f, c.settle found = (log, .error f)) := by
  cases found with
  | ok b => exact .inl ⟨b, rfl, rfl⟩
  | error e =>
      refine .inr ⟨nofun, ?_⟩
      rw [settle, refuse]
      cases c.basket.warning? e with
      | none => exact ⟨[], .longNumeral, rfl⟩
      | some log => exact ⟨log, .refused e, rfl⟩

theorem line?_eq_none (item : Text) (units : Int) :
    c.line? prices item units = none ↔
      Numeral.bound ≤ units.natAbs ∨
        Numeral.bound ≤ (prices.price item * units).natAbs / 100 := by
  have h := (LineFormat.render_eq_longNumeral c.symbol c.lineFormat units item
    (Amount.product (prices.price item) units)).trans (LineFormat.values?_eq_none _ _ _ _)
  rw [Amount.product] at h
  rw [← h, line?, Amount.product]
  split <;> simp_all

theorem line?_bill {item : Text} {units : Int} {log : List Log.Entry} {l : Receipt.Line}
    (h : c.line? prices item units = some (log, l)) :
    l.item = item ∧ l.quantity = units ∧ l.unitPrice = prices.price item := by
  simp only [line?] at h
  split at h <;> cases h <;> exact ⟨rfl, rfl, rfl⟩

theorem lines?_eq_none (entries : List (Text × Int)) :
    (c.lines? prices entries).2 = none ↔ ∃ e ∈ entries, c.line? prices e.1 e.2 = none := by
  induction entries with
  | nil => simp [lines?]
  | cons e entries ih =>
      rcases e with ⟨item, units⟩
      cases h : c.line? prices item units with
      | none => simp [lines?, h]
      | some found => simp [lines?, h, ih]

theorem lines?_bill {entries : List (Text × Int)} {lines : List Receipt.Line}
    (h : (c.lines? prices entries).2 = some lines) :
    lines.map (fun l => (l.item, l.quantity, l.unitPrice)) =
      entries.map fun e => (e.1, e.2, prices.price e.1) := by
  induction entries generalizing lines with
  | nil =>
      cases h
      rfl
  | cons e entries ih =>
      rcases e with ⟨item, units⟩
      cases hl : c.line? prices item units with
      | none => simp [lines?, hl] at h
      | some found =>
          rcases found with ⟨log, l⟩
          simp only [lines?, hl, Option.map_eq_some_iff] at h
          obtain ⟨rest, hrest, rfl⟩ := h
          obtain ⟨hi, hq, hp⟩ := c.line?_bill prices hl
          rw [List.map_cons, List.map_cons, ih hrest, hi, hq, hp]

theorem total_ofLines {lines : List Receipt.Line}
    (h : (c.lines? prices c.basket.billed).2 = some lines) :
    (Receipt.ofLines c.symbol lines).total = c.basket.worth prices := by
  have hb := congrArg (List.map fun x => x.2.2 * x.2.1) (c.lines?_bill prices h)
  rw [List.map_map, List.map_map] at hb
  rw [Basket.worth, List.sum_eq_foldr]
  exact congrArg (List.foldr (· + ·) 0) hb

theorem receipt_eq_some {r : Receipt} :
    (c.receipt prices).2 = some r ↔
      ∃ lines, (c.lines? prices c.basket.billed).2 = some lines ∧
        r = Receipt.ofLines c.symbol lines ∧ r.amount? ≠ none := by
  rw [receipt, Option.bind_eq_some_iff]
  constructor
  · rintro ⟨lines, hl, hr⟩
    rw [complete?, Option.map_eq_some_iff] at hr
    obtain ⟨amount, ha, rfl⟩ := hr
    exact ⟨lines, hl, rfl, by simp [ha]⟩
  · rintro ⟨lines, hl, rfl, ha⟩
    obtain ⟨amount, ha⟩ := Option.ne_none_iff_exists'.mp ha
    exact ⟨lines, hl, by rw [complete?, ha, Option.map_some]⟩

/-- A receipt bills what the basket holds, one line for each item and in order, and its total is
what all of it is worth. -/
theorem receipt_bill {r : Receipt} (h : (c.receipt prices).2 = some r) :
    r.lines.map (fun l => (l.item, l.quantity, l.unitPrice)) =
        c.basket.billed.map (fun e => (e.1, e.2, prices.price e.1)) ∧
      r.total = c.basket.worth prices := by
  obtain ⟨lines, hl, rfl, _⟩ := (c.receipt_eq_some prices).mp h
  exact ⟨c.lines?_bill prices hl, c.total_ofLines prices hl⟩

theorem receipt_billed {r : Receipt} (h : (c.receipt prices).2 = some r) {l : Receipt.Line}
    (hl : l ∈ r.lines) :
    (l.item, l.quantity) ∈ c.basket.billed ∧ l.unitPrice = prices.price l.item := by
  have hmem : (l.item, l.quantity, l.unitPrice) ∈
      c.basket.billed.map fun e => (e.1, e.2, prices.price e.1) := by
    rw [← (c.receipt_bill prices h).1]
    exact List.mem_map_of_mem hl
  obtain ⟨⟨item, units⟩, he, heq⟩ := List.mem_map.mp hmem
  simp only [Prod.mk.injEq] at heq
  obtain ⟨rfl, rfl, hprice⟩ := heq
  exact ⟨he, hprice.symm⟩

theorem receipt_symbol {r : Receipt} (h : (c.receipt prices).2 = some r) : r.symbol = c.symbol := by
  obtain ⟨lines, _, rfl, _⟩ := (c.receipt_eq_some prices).mp h
  rfl

/-- Once a receipt is made it can be printed: its total was written out to make it. -/
theorem receipt_printed {r : Receipt} (h : (c.receipt prices).2 = some r) :
    ∃ amount, Amount.text? r.total = some amount ∧
      r.printed? = some (r.lines.map (·.text) ++ [Receipt.label ++ (r.symbol ++ amount)]) := by
  obtain ⟨_, _, _, ha⟩ := (c.receipt_eq_some prices).mp h
  obtain ⟨amount, ha⟩ := Option.ne_none_iff_exists'.mp ha
  exact ⟨amount, ha, by rw [Receipt.printed?_eq, ha, Option.map_some]⟩

end Cart

/-- Some number on the receipt of a basket is too long to be written: the units of an item, the
major part of what they cost, or that of the total. -/
def Basket.Unwritable (b : Basket) (prices : PriceTable) : Prop :=
  (∃ e ∈ b.billed, Numeral.bound ≤ e.2) ∨
    (∃ e ∈ b.billed, Numeral.bound ≤ (prices.price e.1 * e.2).natAbs / 100) ∨
    Numeral.bound ≤ (b.worth prices).natAbs / 100

namespace Cart

variable (c : Cart) (prices : PriceTable)

theorem receipt_eq_none (hc : c.basket.Consistent) :
    (c.receipt prices).2 = none ↔ c.basket.Unwritable prices := by
  have hline (e : Text × Int) (he : e ∈ c.basket.billed) :
      c.line? prices e.1 e.2 = none ↔
        Numeral.bound ≤ e.2 ∨ Numeral.bound ≤ (prices.price e.1 * e.2).natAbs / 100 := by
    have hpos := hc.billed_positive he
    rw [line?_eq_none]
    omega
  cases hl : (c.lines? prices c.basket.billed).2 with
  | none =>
      obtain ⟨e, he, hn⟩ := (c.lines?_eq_none prices _).mp hl
      have hu : c.basket.Unwritable prices := by
        rcases (hline e he).mp hn with h | h
        · exact .inl ⟨e, he, h⟩
        · exact .inr (.inl ⟨e, he, h⟩)
      simp [receipt, hl, hu]
  | some lines =>
      have hsome (e : Text × Int) (he : e ∈ c.basket.billed) : c.line? prices e.1 e.2 ≠ none := by
        intro hn
        have hnone := (c.lines?_eq_none prices _).mpr ⟨e, he, hn⟩
        rw [hl] at hnone
        cases hnone
      have ht : (c.receipt prices).2 = none ↔
          Numeral.bound ≤ (c.basket.worth prices).natAbs / 100 := by
        rw [← c.total_ofLines prices hl, ← Amount.text?_eq_none, receipt, hl, Option.bind_some,
          complete?, Option.map_eq_none_iff]
        rfl
      rw [ht, Basket.Unwritable]
      constructor
      · exact fun h => .inr (.inr h)
      · rintro (⟨e, he, h⟩ | ⟨e, he, h⟩ | h)
        · exact absurd ((hline e he).mpr (.inl h)) (hsome e he)
        · exact absurd ((hline e he).mpr (.inr h)) (hsome e he)
        · exact h

variable {c' : Cart}

theorem lines?_layout (hsymbol : c'.symbol = c.symbol) (hformat : c'.lineFormat = c.lineFormat)
    (entries : List (Text × Int)) : c'.lines? prices entries = c.lines? prices entries := by
  induction entries with
  | nil => rfl
  | cons e entries ih =>
      have hline : c'.line? prices e.1 e.2 = c.line? prices e.1 e.2 := by
        simp only [line?, hsymbol, hformat]
      rw [lines?, lines?, hline, ih]

theorem receipt_layout (hsymbol : c'.symbol = c.symbol) (hformat : c'.lineFormat = c.lineFormat)
    (hbilled : c'.basket.billed = c.basket.billed) : c'.receipt prices = c.receipt prices := by
  have hcomplete : c'.complete? = c.complete? := by
    funext lines
    simp only [complete?, hsymbol]
  rw [receipt, receipt, hbilled, c.lines?_layout prices hsymbol hformat, hcomplete]

theorem receipt_consume (on : Bool) :
    receipt { c with consume := on } prices = c.receipt prices :=
  c.receipt_layout prices rfl rfl rfl

end Cart

end Checkout
