import Checkout.Proofs.LineFormat
import Checkout.Proofs.Printing

namespace Checkout

namespace Receipt

def Line.bill (l : Line) : Text × Int × Int × Int := (l.item, l.quantity, l.unitPrice, l.total)

structure BillAlike (a b : Receipt) : Prop where
  symbol : a.symbol = b.symbol
  total : a.total = b.total
  bill : a.lines.map Line.bill = b.lines.map Line.bill

end Receipt

namespace Cart

variable {c : Cart} {prices : PriceTable}

/-- With a line format that is refused every line is blank, and says so in the log. -/
theorem line?_refused {u : Template.Unknown} (hcheck : Template.check c.lineFormat = .error u)
    {item : Text} {units : Int} {log : List Log.Entry} {l : Receipt.Line}
    (h : c.line? prices item units = some (log, l)) :
    l.rendered = false ∧ l.text = Receipt.blank ∧ log = [blankWarning l.item u] := by
  have hrender := (LineFormat.render_eq_unknown (line?_values h) u).mpr hcheck
  rcases line?_cases h with ⟨hok, _⟩ | ⟨u', herror, hrendered, htext, hlog⟩
  · cases hok.symm.trans hrender
  · cases herror.symm.trans hrender
    rw [(c.line?_bill prices h).1]
    exact ⟨hrendered, htext, hlog⟩

theorem lines?_refused {u : Template.Unknown} (hcheck : Template.check c.lineFormat = .error u)
    {entries : List (Text × Int)} {lines : List Receipt.Line}
    (h : (c.lines? prices entries).2 = some lines) :
    (∀ l ∈ lines, l.rendered = false ∧ l.text = Receipt.blank) ∧
      (c.lines? prices entries).1 = lines.map fun l => blankWarning l.item u := by
  induction entries generalizing lines with
  | nil =>
      cases h
      exact ⟨List.forall_mem_nil _, rfl⟩
  | cons e entries ih =>
      cases hl : c.line? prices e.1 e.2 with
      | none => simp [lines?, hl] at h
      | some found =>
          rcases found with ⟨log, l⟩
          simp only [lines?, hl, Option.map_eq_some_iff] at h ⊢
          obtain ⟨rest, hrest, rfl⟩ := h
          obtain ⟨hrendered, htext, rfl⟩ := line?_refused hcheck hl
          obtain ⟨hblank, hlog⟩ := ih hrest
          exact ⟨List.forall_mem_cons.mpr ⟨⟨hrendered, htext⟩, hblank⟩, by rw [hlog]; rfl⟩

/-- Two line formats make a receipt of the same baskets, and then one that bills the same. -/
theorem receipt_reformatted (hc : c.basket.Consistent) (prices : PriceTable) (f g : Option Text) :
    let under := fun format => receipt { c with lineFormat := format } prices
    ((under f).2 = none ∧ (under g).2 = none) ∨
      ∃ a b, (under f).2 = some a ∧ (under g).2 = some b ∧ a.BillAlike b := by
  intro under
  have hnone (format : Option Text) : (under format).2 = none ↔ c.basket.Unwritable prices :=
    receipt_eq_none { c with lineFormat := format } prices hc
  have hbill (r : Receipt) : r.lines.map Receipt.Line.bill =
      (r.lines.map fun l => (l.item, l.quantity, l.unitPrice)).map
        fun e => (e.1, e.2.1, e.2.2, Amount.product e.2.2 e.2.1) := by
    rw [List.map_map]
    rfl
  by_cases hu : c.basket.Unwritable prices
  · exact .inl ⟨(hnone f).mpr hu, (hnone g).mpr hu⟩
  · obtain ⟨a, ha⟩ := Option.ne_none_iff_exists'.mp (mt (hnone f).mp hu)
    obtain ⟨b, hb⟩ := Option.ne_none_iff_exists'.mp (mt (hnone g).mp hu)
    obtain ⟨hlines, htotal⟩ := receipt_bill _ prices ha
    obtain ⟨hlines', htotal'⟩ := receipt_bill _ prices hb
    refine .inr ⟨a, b, ha, hb, ?_, ?_, ?_⟩
    · rw [receipt_symbol _ prices ha, receipt_symbol _ prices hb]
    · rw [htotal, htotal']
    · rw [hbill, hbill, hlines, hlines']

theorem afterReceipt_reformatted (c : Cart) (f g : Option Text) :
    { afterReceipt { c with lineFormat := f } with lineFormat := g } =
      afterReceipt { c with lineFormat := g } := by
  rw [afterReceipt, afterReceipt]
  cases c.consume <;> rfl

end Cart

namespace Register

/-- The line format decides how the lines of a receipt are worded and nothing else: not whether
there is a receipt, not what it bills and not what becomes of the cart. Either all lines are worded
as it says and nothing is logged, or all are blank and each of them is told, for the same reason. -/
theorem lineFormat_only_words (symbol : Text) (lineFormat : Option Text) (consume : Bool)
    (prices : PriceTable) (steps : List Step) (table : PriceTable) (f g : Option Text) :
    let r := (fresh symbol lineFormat consume prices).after steps
    let under := fun format =>
      { r with cart := { r.cart with lineFormat := format }, prices := table }
    (∀ s, s.bills →
      (((under f).step s).2.result = .error .longNumeral ∧
        ((under g).step s).2.result = .error .longNumeral) ∨
      ∃ a b, ((under f).event s).receipt? = some a ∧ ((under g).event s).receipt? = some b ∧
        a.BillAlike b) ∧
    (∀ s, s.bills →
      { ((under f).step s).1.cart with lineFormat := g } = ((under g).step s).1.cart) ∧
    (∀ s, s.bills → ∀ a, ((under f).event s).receipt? = some a →
      (Template.check f = .ok () ∧ (∀ l ∈ a.lines, l.rendered = true) ∧
        ((under f).step s).2.log = []) ∨
      ∃ u, Template.check f = .error u ∧
        (∀ l ∈ a.lines, l.rendered = false ∧ l.text = ("[BLANK]" : Text)) ∧
        ((under f).step s).2.log = a.lines.map (fun l =>
          ⟨.warning, "Line for " ++ Log.sanitized l.item ++ " printed blank: " ++ u.message⟩) ∧
        u.message = "unrecognized placeholder: " ++ Text.quoted u.token ++ " at index " ++
          Numeral.text u.position) := by
  intro r under
  have hc : r.cart.basket.Consistent :=
    consistent_after (r := fresh symbol lineFormat consume prices) Basket.consistent_empty steps
  refine ⟨?_, ?_, ?_⟩
  · intro s hs
    rcases Cart.receipt_reformatted hc table f g with ⟨hf, hg⟩ | ⟨a, b, hf, hg, halike⟩
    · refine .inl ⟨?_, ?_⟩
      · rw [step_unbilled hf hs]
      · rw [step_unbilled hg hs]
    · exact .inr ⟨a, b, (event_billed hf hs).1, (event_billed hg hs).1, halike⟩
  · intro s hs
    rcases Cart.receipt_reformatted hc table f g with ⟨hf, hg⟩ | ⟨a, b, hf, hg, _⟩
    · rw [(event_unbilled hf hs).2, (event_unbilled hg hs).2]
    · rw [(event_billed hf hs).2.1, (event_billed hg hs).2.1]
      exact r.cart.afterReceipt_reformatted f g
  · intro s hs a ha
    have hreceipt : ((under f).cart.receipt table).2 = some a := receipt_of_event ha
    rw [step_bills_log _ hs]
    cases hcheck : Template.check f with
    | ok _ =>
        refine .inl ⟨rfl, ?_, Cart.lines?_checked hcheck _⟩
        intro l hl
        obtain ⟨log, hline⟩ := Cart.receipt_line hreceipt hl
        exact (Cart.line?_checked hcheck hline).2.1
    | error u =>
        obtain ⟨lines, hlines, rfl, _⟩ := (Cart.receipt_eq_some _ table).mp hreceipt
        obtain ⟨hblank, hlog⟩ := Cart.lines?_refused hcheck hlines
        exact .inr ⟨u, rfl, hblank, hlog, rfl⟩

end Register

end Checkout
