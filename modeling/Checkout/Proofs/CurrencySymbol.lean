import Checkout.Proofs.NormalForm
import Checkout.Proofs.Recased
import Checkout.Proofs.Reformatting

namespace Checkout

namespace Currency

variable {c c' : Text}

theorem symbol_congr (h : normalize c = normalize c') (symbols : Symbols) :
    symbol symbols c = symbol symbols c' := by
  rw [symbol, symbol, h]

theorem normalize_between {front back : Text} (hfront : ∀ d ∈ front, Text.isBlank d = true)
    (hback : ∀ d ∈ back, Text.isBlank d = true) (c : Text) :
    normalize (front ++ c ++ back) = normalize c := by
  rw [normalize, Text.strip, Text.trim_between hfront hback, ← Text.strip, normalize]

theorem normalize_recased (h : Text.Recased c c') : normalize c = normalize c' := by
  rw [normalize_eq_strip_capitals, normalize_eq_strip_capitals, h.capitals_eq]

namespace Symbols

theorem ofList_standard : ofList standard = standard := by decide +kernel

theorem ofOption_eq (table : Option (Table Text)) :
    ofOption table = ofList (table.getD standard) := by
  cases table with
  | none => exact ofList_standard.symm
  | some entries => rfl

theorem get?_ofList (entries : Table Text) (code : Text) :
    Table.get? (ofList entries) code =
      Table.last? (entries.map fun e => (normalize e.1, e.2)) code :=
  Table.get?_ofEntries _ code

end Symbols

theorem symbol_ofList_last {before after : Table Text} {code shown : Text}
    (hcode : normalize code = normalize c) (hafter : ∀ e ∈ after, normalize e.1 ≠ normalize c) :
    symbol (.ofList (before ++ (code, shown) :: after)) c = shown := by
  have hlast : ∀ e ∈ after.map fun e => (normalize e.1, e.2), e.1 ≠ normalize c :=
    List.forall_mem_map.mpr hafter
  rw [symbol, Symbols.get?_ofList, List.map_append, List.map_cons, hcode,
    Table.last?_append_cons hlast, Option.getD_some]

theorem symbol_ofList_none {entries : Table Text}
    (h : ∀ e ∈ entries, normalize e.1 ≠ normalize c) :
    symbol (.ofList entries) c = normalize c := by
  have hnone : ∀ e ∈ entries.map fun e => (normalize e.1, e.2), e.1 ≠ normalize c :=
    List.forall_mem_map.mpr h
  rw [symbol, Symbols.get?_ofList, Table.last?_eq_none hnone, Option.getD_none]

end Currency

namespace Settings

/-- Settings that were given a text as their currency: directly, by the environment, or by a flag.
Other flags leave the currency of the environment alone. -/
inductive GivenCurrency (c : Text) : Settings → Prop
  | given {g : Given} {s : Settings} (h : ofGiven g = .ok s) (hc : g.currency = some (.text c)) :
      GivenCurrency c s
  | environment {env : Environment} {s : Settings} (h : ofEnvironment env = .ok s)
      (hc : env.get? "TILL_CURRENCY" = some c) : GivenCurrency c s
  | flag {env : Environment} {o : Overrides} {s : Settings} (h : load env o = .ok s)
      (hc : o.currency = some (.text c)) : GivenCurrency c s
  | otherFlags {env : Environment} {o : Overrides} {s : Settings} (h : load env o = .ok s)
      (ho : o.currency = none) (hc : env.get? "TILL_CURRENCY" = some c) : GivenCurrency c s

theorem currency_ofGiven {g : Given} {s : Settings} (h : ofGiven g = .ok s) {c : Text}
    (hc : g.currency = some (.text c)) : s.currency = Currency.normalize c := by
  obtain ⟨hread, _⟩ := ofGiven_eq_ok h
  rw [hc, orDefault, readCurrency, currencyText?] at hread
  simp only at hread
  split at hread
  · cases hread
  · exact (Except.ok.inj hread).symm

theorem currency_ofEnvironment {env : Environment} {s : Settings} (h : ofEnvironment env = .ok s)
    {c : Text} (hc : env.get? "TILL_CURRENCY" = some c) : s.currency = Currency.normalize c := by
  refine currency_ofGiven h ?_
  rw [givenByEnvironment, hc, Option.getD_some]

theorem GivenCurrency.currency_eq {c : Text} {s : Settings} (h : s.GivenCurrency c) :
    s.currency = Currency.normalize c := by
  cases h with
  | given h hc => exact currency_ofGiven h hc
  | environment h hc => exact currency_ofEnvironment h hc
  | flag h hc =>
      obtain ⟨s₀, _, hs⟩ := exists_environment h
      refine currency_ofGiven hs ?_
      rw [override, hc, Option.some_or]
  | otherFlags h ho hc =>
      -- What the environment gave is given once more, in its normal form.
      obtain ⟨s₀, he, hs⟩ := exists_environment h
      have hs₀ := currency_ofEnvironment he hc
      have hagain := currency_ofGiven (c := s₀.currency) hs (by rw [override, ho]; rfl)
      rw [hagain, hs₀, Currency.normalize_normalize]

end Settings

namespace Register

theorem symbol_step (r : Register) (s : Step) : (r.step s).1.cart.symbol = r.cart.symbol := by
  have hkept {s : Step} (hs : ∀ t, s ≠ .setFormat t) :
      (r.step s).1.cart.symbol = r.cart.symbol :=
    (Shows.step (r := r) ⟨rfl, rfl⟩ hs).symbol
  cases s with
  | setFormat template => rfl
  | _ => exact hkept nofun

/-- Amounts are printed with the symbol that a cart was set up with, whatever becomes of its line
format. -/
theorem receipt_shows (symbols : Currency.Symbols) (s : Settings) (prices : PriceTable)
    (steps : List Step) : ∀ e ∈ (configured symbols s prices).run steps,
    ∀ receipt, e.receipt? = some receipt →
      receipt.symbol = Currency.symbol symbols s.currency ∧
      (∃ amount, Amount.text? receipt.total = some amount ∧
        receipt.printed? = some (receipt.lines.map (·.text) ++
          [Receipt.label ++ (receipt.symbol ++ amount)])) ∧
      ∀ l ∈ receipt.lines, l.rendered = true →
        LineFormat.render receipt.symbol e.before.cart.lineFormat l.quantity l.item l.total =
          .ok l.text := by
  intro e he receipt hreceipt
  have hsymbol : e.before.cart.symbol = Currency.symbol symbols s.currency :=
    run_before (P := fun r => r.cart.symbol = Currency.symbol symbols s.currency) rfl
      (fun r step _ h => (symbol_step r step).trans h) e he
  rw [mem_run he] at hreceipt
  have hmade := receipt_of_event hreceipt
  have hcart := Cart.receipt_symbol _ _ hmade
  refine ⟨hcart.trans hsymbol, Cart.receipt_printed _ _ hmade, ?_⟩
  intro l hl hrendered
  rcases Cart.receipt_line_cases hmade hl with ⟨_, hblank, _⟩ | ⟨_, _, hrender⟩
  · rw [hblank] at hrendered
    cases hrendered
  · rwa [hcart]

end Register

/-- The symbol of a currency is the last one that the table has under its normal form, be it empty,
and its normal form where the table has none; without a table it is looked up among those at hand.
Neither white space around a code nor how often it is brought to normal form makes a difference,
and a cart that is set up with a code prints its symbol. The case of its letters makes none either,
except for lone capitals: `ẞ` stays as it is, where its small letter `ß` has the capitals `SS`. -/
theorem symbol_by_normal_form (table : Option (Table Text)) :
    let symbols := Currency.Symbols.ofOption table
    let entries := table.getD [("EUR", "€"), ("USD", "$"), ("RON", "LEI ")]
    (∀ before code shown after c, entries = before ++ (code, shown) :: after →
      Currency.normalize code = Currency.normalize c →
      (∀ e ∈ after, Currency.normalize e.1 ≠ Currency.normalize c) →
      Currency.symbol symbols c = shown) ∧
    (∀ c, (∀ e ∈ entries, Currency.normalize e.1 ≠ Currency.normalize c) →
      Currency.symbol symbols c = Currency.normalize c) ∧
    (∀ c, Currency.normalize (Currency.normalize c) = Currency.normalize c ∧
      Currency.symbol symbols (Currency.normalize c) = Currency.symbol symbols c) ∧
    (∀ m : Currency, Currency.normalize m.code = m.code) ∧
    (∀ front c back front' c' back',
      (∀ d ∈ front ++ back ++ (front' ++ back'), Text.isBlank d = true) →
      Text.Recased c c' → Currency.symbol symbols (front ++ c ++ back) =
        Currency.symbol symbols (front' ++ c' ++ back')) ∧
    (∀ c c', Currency.normalize c = Currency.normalize c' ↔
      Text.Recased (Text.strip c) (Text.strip c')) ∧
    (∀ c, Currency.normalize (Text.smalls c) = Currency.normalize c ↔
      ∀ x ∈ c, x.toNat ∉ Text.loneCapitals) ∧
    ∀ c s, Settings.GivenCurrency c s →
      (Cart.ofSettings symbols s).symbol = Currency.symbol symbols c ∧
      ∀ prices steps, ∀ e ∈ (Register.configured symbols s prices).run steps,
      ∀ receipt, e.receipt? = some receipt →
        receipt.symbol = Currency.symbol symbols c ∧
        (∃ amount, Amount.text? receipt.total = some amount ∧
          receipt.printed? = some (receipt.lines.map (·.text) ++
            ["TOTAL PRICE: " ++ (Currency.symbol symbols c ++ amount)])) ∧
        ∀ l ∈ receipt.lines, l.rendered = true →
          LineFormat.render (Currency.symbol symbols c) e.before.cart.lineFormat l.quantity l.item
            l.total = .ok l.text := by
  intro symbols entries
  have hsymbols : symbols = .ofList entries := Currency.Symbols.ofOption_eq table
  refine ⟨?_, ?_, ?_, ?_, ?_, fun c c' => Currency.normalize_eq_iff,
    fun c => Currency.normalize_smalls, ?_⟩
  · rintro before code shown after c hentries hcode hafter
    rw [hsymbols, hentries, Currency.symbol_ofList_last hcode hafter]
  · intro c hnone
    rw [hsymbols, Currency.symbol_ofList_none hnone]
  · intro c
    have hsame := Currency.normalize_normalize c
    exact ⟨hsame, Currency.symbol_congr hsame symbols⟩
  · intro m
    cases m <;> decide +kernel
  · intro front c back front' c' back' hblank hcase
    rw [List.forall_mem_append, List.forall_mem_append, List.forall_mem_append] at hblank
    obtain ⟨⟨hfront, hback⟩, hfront', hback'⟩ := hblank
    refine Currency.symbol_congr ?_ symbols
    rw [Currency.normalize_between hfront hback, Currency.normalize_between hfront' hback',
      Currency.normalize_recased hcase]
  · intro c s hc
    have hsymbol : Currency.symbol symbols s.currency = Currency.symbol symbols c := by
      rw [hc.currency_eq]
      exact Currency.symbol_congr (Currency.normalize_normalize c) symbols
    refine ⟨hsymbol, ?_⟩
    intro prices steps e he receipt hreceipt
    obtain ⟨hshown, hprinted, hlines⟩ :=
      Register.receipt_shows symbols s prices steps e he receipt hreceipt
    rw [hshown, hsymbol] at hprinted hlines
    exact ⟨hshown.trans hsymbol, hprinted, hlines⟩

def streetSymbols : Table Text := [("straße", "-"), (" eur", "E "), ("STRASSE\t", "")]

/-- A street is looked up as it is written, and one more time by settings that were given it. -/
theorem symbol_by_normal_form_street :
    let symbols := Currency.Symbols.ofOption (some streetSymbols)
    let env : Environment := [("TILL_CURRENCY", " Straße\n")]
    let s : Settings := ⟨"STRASSE", none, false, none⟩
    let bill : Receipt := ⟨"", [⟨"tea", 2, 5, "tea - 2 - 0.10", true⟩], 10⟩
    Currency.symbol symbols "strasse" = [] ∧ Currency.symbol symbols "usd " = "USD" ∧
      Currency.symbol symbols "\tEur" = Currency.symbol symbols "eUR " ∧
      Settings.load env ⟨none, none, none, false⟩ = .ok s ∧
      (((Register.configured symbols s [("tea", some 5)]).after [.add "tea" 2]).event
        .receipt).receipt? = some bill ∧
      bill.printed? = some [("tea - 2 - 0.10" : Text), "TOTAL PRICE: 0.10"] := by
  intro symbols env s bill
  obtain ⟨hlast, hnone, -, -, halike, -, -, hset⟩ := symbol_by_normal_form (some streetSymbols)
  have hstrasse : Currency.symbol symbols "strasse" = [] :=
    hlast [("straße", "-"), (" eur", "E ")] "STRASSE\t" [] [] "strasse" rfl (by decide +kernel)
      nofun
  have husd : Currency.symbol symbols "usd " = "USD" := by
    rw [hnone "usd " (by decide +kernel)]
    decide +kernel
  have heur : Currency.symbol symbols "\tEur" = Currency.symbol symbols "eUR " :=
    halike "\t" "Eur" [] [] "eUR" " " (List.all_eq_true.mp (by decide +kernel))
      (Text.recased_iff.mpr (by decide +kernel))
  have hload : Settings.load env ⟨none, none, none, false⟩ = .ok s := by decide +kernel
  have hbill : (((Register.configured symbols s [("tea", some 5)]).after [.add "tea" 2]).event
      .receipt).receipt? = some bill := by
    decide +kernel
  have hstreet : Currency.symbol symbols " Straße\n" = [] :=
    hlast [("straße", "-"), (" eur", "E ")] "STRASSE\t" [] [] " Straße\n" rfl (by decide +kernel)
      nofun
  obtain ⟨-, hruns⟩ := hset " Straße\n" s (.otherFlags hload rfl (by decide +kernel))
  obtain ⟨-, ⟨amount, hamount, hprinted⟩, -⟩ := hruns [("tea", some 5)]
    [.add "tea" 2, .receipt] _ (List.mem_cons_of_mem _ List.mem_cons_self) bill hbill
  refine ⟨hstrasse, husd, heur, hload, hbill, ?_⟩
  have hten : Amount.text? 10 = some "0.10" := by decide +kernel
  rw [hprinted, ← Option.some.inj (hten.symm.trans hamount), hstreet]
  rfl

/-- The capital `ẞ` stays as it is in a normal form, where its small letter becomes `SS`. -/
theorem sharp_s_not_alike :
    let symbols := Currency.Symbols.ofOption (some [("straße", "S")])
    Text.smalls "STRAẞE" = "straße" ∧ Currency.normalize "straße" = "STRASSE" ∧
      Currency.normalize "STRAẞE" = "STRAẞE" ∧ Currency.symbol symbols "straße" = "S" ∧
      Currency.symbol symbols "STRAẞE" = "STRAẞE" := by
  decide +kernel

end Checkout
