import Checkout.Proofs.LineFormat
import Checkout.Proofs.Run

namespace Checkout

namespace Settings

inductive Accepted : Settings → Prop
  | given {g : Given} {s : Settings} (h : ofGiven g = .ok s) : Accepted s
  | environment {env : Environment} {s : Settings} (h : ofEnvironment env = .ok s) : Accepted s
  | loaded {env : Environment} {o : Overrides} {s : Settings} (h : load env o = .ok s) : Accepted s

theorem Accepted.checked {s : Settings} (h : s.Accepted) :
    Template.check s.lineFormat = .ok () ∧ s.lineFormat ≠ some [] := by
  cases h with
  | given h | environment h => exact ofGiven_checked h
  | loaded h => exact load_checked h

end Settings

theorem Basket.warning?_ne_blank {b : Basket} {f : Refused} {log : List Log.Entry}
    (h : b.warning? f = some log) {entry : Log.Entry} (he : entry ∈ log) (item : Text)
    (u : Template.Unknown) : entry ≠ Cart.blankWarning item u := by
  -- These warnings begin with "Rejected", the other kind with "Line".
  have hhead : entry.message.head? = some 'R' := by
    rw [warning?] at h
    split at h
    · obtain ⟨q, _, rfl⟩ := Option.map_eq_some_iff.mp h
      rw [List.mem_singleton.mp he]
      rfl
    · split at h
      · cases h
        rw [List.mem_singleton.mp he]
        rfl
      · cases h
    · cases h
      cases he
  rintro rfl
  cases hhead

theorem Cart.afterReceipt_symbol (c : Cart) : c.afterReceipt.symbol = c.symbol := by
  rw [afterReceipt]
  split <;> rfl

theorem Cart.afterReceipt_lineFormat (c : Cart) : c.afterReceipt.lineFormat = c.lineFormat := by
  rw [afterReceipt]
  split <;> rfl

namespace Register

def configured (symbols : Currency.Symbols) (s : Settings) (prices : PriceTable) : Register :=
  ⟨.ofSettings symbols s, prices, []⟩

structure Shows (symbol : Text) (lineFormat : Option Text) (r : Register) : Prop where
  symbol : r.cart.symbol = symbol
  lineFormat : r.cart.lineFormat = lineFormat

variable {symbol : Text} {lineFormat : Option Text} {r : Register}

theorem Shows.step (h : r.Shows symbol lineFormat) {s : Step} (hs : ∀ t, s ≠ .setFormat t) :
    (r.step s).1.Shows symbol lineFormat := by
  have hscan {s : Step} (hi : s.item? ≠ none) : (r.step s).1.Shows symbol lineFormat := by
    obtain ⟨b, hb⟩ := step_scan (r := r) hi
    rw [hb]
    exact ⟨h.symbol, h.lineFormat⟩
  have hbills {s : Step} (hb : s.bills) : (r.step s).1.Shows symbol lineFormat := by
    cases hr : (r.cart.receipt r.prices).2 with
    | none =>
        rw [(event_unbilled hr hb).2]
        exact h
    | some receipt =>
        have hcart := (event_billed hr hb).2.1
        refine ⟨?_, ?_⟩
        · rw [hcart, Cart.afterReceipt_symbol, h.symbol]
        · rw [hcart, Cart.afterReceipt_lineFormat, h.lineFormat]
  cases s with
  | add | remove => exact hscan (Option.some_ne_none _)
  | receipt | printToRoll | printToStream => exact hbills rfl
  | setFormat template => exact absurd rfl (hs template)
  | unitsOf | contains | clear | setConsume | setPrice => exact ⟨h.symbol, h.lineFormat⟩

theorem step_log_ne_blank (hcheck : Template.check r.cart.lineFormat = .ok ()) (s : Step)
    {entry : Log.Entry} (he : entry ∈ (r.step s).2.log) (item : Text) (u : Template.Unknown) :
    entry ≠ Cart.blankWarning item u := by
  have hscan (item' : Text) (found : Except Basket.Refused Basket)
      (hmem : entry ∈ (r.scanned item' (r.cart.settle found)).2.log) :
      entry ≠ Cart.blankWarning item u := by
    cases found with
    | ok b => cases hmem
    | error f =>
        cases hw : r.cart.basket.warning? f with
        | none =>
            rw [Cart.settle, Cart.refuse, hw] at hmem
            cases hmem
        | some log =>
            rw [Cart.settle, Cart.refuse, hw] at hmem
            exact Basket.warning?_ne_blank hw hmem item u
  cases s with
  | add item' d => exact hscan item' _ he
  | remove item' n => exact hscan item' _ he
  | unitsOf | contains | clear | setFormat | setConsume | setPrice => cases he
  | receipt | printToRoll | printToStream =>
      rw [step_bills_log r rfl, Cart.receipt, Cart.lines?_checked hcheck] at he
      cases he

/-- Whatever settings are accepted, a cart set up by them prints no blank line as long as its line
format is left as it is: each line of each receipt is what the line format makes of its item, and
no receipt logs anything. -/
theorem configured_never_blank {s : Settings} (hs : s.Accepted) (symbols : Currency.Symbols)
    (prices : PriceTable) {steps : List Step} (hsteps : ∀ t, .setFormat t ∉ steps) :
    ∀ e ∈ (configured symbols s prices).run steps,
      (∀ receipt, e.receipt? = some receipt → ∀ l ∈ receipt.lines, l.rendered = true ∧
        LineFormat.render (Currency.symbol symbols s.currency) s.lineFormat l.quantity l.item
          l.total = .ok l.text) ∧
      (e.step.bills → e.reply.log = []) ∧
      ∀ entry ∈ e.reply.log, ∀ item u, entry ≠ Cart.blankWarning item u := by
  obtain ⟨hcheck, hne⟩ := hs.checked
  have hstart : (configured symbols s prices).Shows (Currency.symbol symbols s.currency)
      s.lineFormat := ⟨rfl, if_neg hne⟩
  have hbefore : ∀ e ∈ (configured symbols s prices).run steps,
      e.before.Shows (Currency.symbol symbols s.currency) s.lineFormat := by
    apply run_before hstart
    intro r step hstep h
    apply h.step
    rintro t rfl
    exact hsteps t hstep
  intro e he
  obtain ⟨hsymbol, hformat⟩ := hbefore e he
  have hevent := mem_run he
  have hcheck' : Template.check e.before.cart.lineFormat = .ok () := hformat ▸ hcheck
  refine ⟨?_, ?_, ?_⟩
  · intro receipt hreceipt l hl
    rw [hevent] at hreceipt
    rcases Cart.receipt_line_cases (receipt_of_event hreceipt) hl with ⟨⟨u, hu⟩, _⟩ | ⟨_, hrendered⟩
    · rw [hcheck'] at hu
      cases hu
    · rw [← hsymbol, ← hformat]
      exact hrendered
  · intro hb
    rw [hevent]
    exact (step_bills_log e.before hb).trans (Cart.lines?_checked hcheck' _)
  · intro entry hentry item u
    rw [hevent] at hentry
    exact step_log_ne_blank hcheck' e.step hentry item u

theorem configured_never_blank_dollar :
    let s : Settings := ⟨"USD", some "<pn>: <pc>", false, none⟩
    let steps : List Step := [.add "<zz>" 2, .remove "tea" 1, .setConsume true, .printToRoll]
    Settings.ofEnvironment [("TILL_CURRENCY", " usd"), ("TILL_LINE_FORMAT", "<pn>: <pc>")] = .ok s ∧
      (∀ t, .setFormat t ∉ steps) ∧
      ((configured .standard s .standard).after steps).roll =
        ["<zz>: $0.00", "TOTAL PRICE: $0.00"].map String.toList ∧
      ∀ e ∈ (configured .standard s .standard).run steps, ∀ receipt, e.receipt? = some receipt →
        ∀ l ∈ receipt.lines, l.rendered = true := by
  have hs : Settings.ofEnvironment [("TILL_CURRENCY", " usd"), ("TILL_LINE_FORMAT", "<pn>: <pc>")] =
      .ok ⟨"USD", some "<pn>: <pc>", false, none⟩ := by decide +kernel
  refine ⟨hs, by simp, by decide +kernel, ?_⟩
  intro e he receipt hreceipt l hl
  exact ((configured_never_blank (.environment hs) .standard .standard (by simp) e he).1 receipt
    hreceipt l hl).1

end Register

end Checkout
