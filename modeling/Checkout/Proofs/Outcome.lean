import Checkout.Proofs.LineFormat
import Checkout.Proofs.Scans

namespace Checkout.CommandLine

structure Ready (opener : Catalog.Opener) (vars : Environment) (a : Arguments) (s : Settings)
    (table : PriceTable) : Prop where
  settings : Settings.load vars a.overrides = .ok s
  catalog : (prices opener s).2 = .ok table

structure Completes (opener : Catalog.Opener) (vars : Environment) (a : Arguments) (s : Settings)
    (table : PriceTable) (c : Cart) (r : Receipt) (t : Text) : Prop where
  ready : Ready opener vars a s table
  scanned : (scanAll (.ofSettings .standard s) a.scans).2 = .ok c
  receipt : (c.receipt table).2 = some r
  text : printed? a.json r = some t

def Writable (table : PriceTable) (entries : Table Int) : Prop :=
  (∀ e ∈ entries, e.2 < Numeral.bound ∧ (table.price e.1 * e.2).natAbs / 100 < Numeral.bound) ∧
    (entries.map fun e => table.price e.1 * e.2).sum.natAbs / 100 < Numeral.bound

def conclude (json : Bool) (log : List Log.Entry) (table : PriceTable) :
    Except Cart.Failure Cart → Outcome
  | .error (.refused r) => ⟨.exit 2, [], [], log ++ [cannotPrint r.report.message]⟩
  | .error .longNumeral => ⟨.crash .longNumeral, [], [], log⟩
  | .ok c => deliver json log c table

theorem catalogFailure_ending (path : Text) (e : Catalog.Error) :
    (catalogFailure path e).ending ≠ .exit 0 ∧ (catalogFailure path e).out = [] := by
  cases e with
  | file e =>
      rw [catalogFailure]
      cases e.message? path <;> simp
  | reading f => simp [catalogFailure]
  | content f => simp [catalogFailure]

theorem deliver_ending_log (json : Bool) (log : List Log.Entry) (c : Cart) (table : PriceTable) :
    (deliver json log c table).ending ≠ .exit 2 ∧
      (deliver json log c table).log = log ++ (c.receipt table).1 := by
  rw [deliver]
  cases h : (c.receipt table).2.bind (printed? json) <;> simp [h]

section

variable {opener : Catalog.Opener} {vars : Environment} {a : Arguments} {s : Settings}
  {table : PriceTable} {log : List Log.Entry} {c : Cart}

theorem printReceipt_rejected {errors : List Settings.Error}
    (h : Settings.load vars a.overrides = .error errors) :
    printReceipt opener vars a = ⟨.exit 2, [], [], [invalidSettings errors.length]⟩ := by
  rw [printReceipt, h]

theorem printReceipt_unloaded {e : Catalog.Error} (hs : Settings.load vars a.overrides = .ok s)
    (hp : (prices opener s).2 = .error e) :
    printReceipt opener vars a = catalogFailure (s.catalog.getD []) e := by
  rcases hloaded : prices opener s with ⟨loaded, found⟩
  rw [hloaded] at hp
  subst hp
  simp only [printReceipt, hs, hloaded]

theorem Ready.printReceipt_eq {found : Except Cart.Failure Cart}
    (h : Ready opener vars a s table)
    (hscan : scanAll (.ofSettings .standard s) a.scans = (log, found)) :
    printReceipt opener vars a = conclude a.json ((prices opener s).1 ++ log) table found := by
  have hp := h.catalog
  rcases hloaded : prices opener s with ⟨loaded, result⟩
  rw [hloaded] at hp
  subst hp
  rcases found with (_ | _) | c <;> simp only [printReceipt, h.settings, hloaded, hscan, conclude]

theorem Ready.refused {f : Cart.Failure} (h : Ready opener vars a s table)
    (hscan : scanAll (.ofSettings .standard s) a.scans = (log, .error f)) :
    (printReceipt opener vars a).ending ≠ .exit 0 ∧ (printReceipt opener vars a).out = [] := by
  rw [h.printReceipt_eq hscan]
  cases f <;> simp [conclude]

theorem Ready.scanned (h : Ready opener vars a s table)
    (hscan : scanAll (.ofSettings .standard s) a.scans = (log, .ok c)) :
    printReceipt opener vars a = deliver a.json ((prices opener s).1 ++ log) c table :=
  h.printReceipt_eq hscan

theorem Completes.outcome {r : Receipt} {t : Text} (h : Completes opener vars a s table c r t) :
    (printReceipt opener vars a).ending = .exit 0 ∧ (printReceipt opener vars a).out = t := by
  have hc := h.scanned
  rcases hscan : scanAll (.ofSettings .standard s) a.scans with ⟨log, found⟩
  rw [hscan] at hc
  subst hc
  have ht : (c.receipt table).2.bind (printed? a.json) = some t := by
    rw [h.receipt, Option.bind_some, h.text]
  rw [h.ready.scanned hscan, deliver]
  simp [ht]

/-- A call either gets through and prints all it has to, or prints nothing. -/
theorem printReceipt_cases (opener : Catalog.Opener) (vars : Environment) (a : Arguments) :
    (∃ s table c r t, Completes opener vars a s table c r t) ∨
      ((printReceipt opener vars a).ending ≠ .exit 0 ∧ (printReceipt opener vars a).out = []) := by
  cases hs : Settings.load vars a.overrides with
  | error errors =>
      rw [printReceipt_rejected hs]
      exact .inr ⟨by simp, rfl⟩
  | ok s =>
      cases hp : (prices opener s).2 with
      | error e =>
          rw [printReceipt_unloaded hs hp]
          exact .inr (catalogFailure_ending _ e)
      | ok table =>
          have hready : Ready opener vars a s table := ⟨hs, hp⟩
          rcases hscan : scanAll (.ofSettings .standard s) a.scans with ⟨log, f | c⟩
          · exact .inr (hready.refused hscan)
          cases ht : (c.receipt table).2.bind (printed? a.json) with
          | some t =>
              obtain ⟨r, hr, htext⟩ := Option.bind_eq_some_iff.mp ht
              exact .inl ⟨s, table, c, r, t, hready, by rw [hscan], hr, htext⟩
          | none =>
              rw [hready.scanned hscan, deliver]
              exact .inr (by simp [ht])

theorem Accounts.writable_iff {b : Basket} (h : Accounts a.scans b) :
    Writable table (bill a.scans) ↔ ¬ b.Unwritable table := by
  rw [Writable, Basket.Unwritable, Basket.worth, h.billed_eq]
  simp only [not_or, not_exists, not_and, Nat.not_le, Int.not_le]
  exact ⟨fun hw => ⟨fun e he => (hw.1 e he).1, fun e he => (hw.1 e he).2, hw.2⟩,
    fun hw => ⟨fun e he => ⟨hw.1 e he, hw.2.1 e he⟩, hw.2.2⟩⟩

theorem scanAll_ofSettings_cases (s : Settings) (scans : List Scan) :
    (AllLegal scans ∧ ∃ b, Accounts scans b ∧ scanAll (.ofSettings .standard s) scans =
      ([], .ok { Cart.ofSettings .standard s with basket := b })) ∨
    (¬ AllLegal scans ∧ ∃ log f, scanAll (.ofSettings .standard s) scans = (log, .error f)) :=
  scanAll_cases (c := .ofSettings .standard s) accounts_nil scans

theorem Completes.accounts {r : Receipt} {t : Text} (h : Completes opener vars a s table c r t) :
    AllLegal a.scans ∧ ∃ b, Accounts a.scans b ∧
      c = { Cart.ofSettings .standard s with basket := b } := by
  have hc := h.scanned
  rcases scanAll_ofSettings_cases s a.scans with ⟨hl, b, hb, hscan⟩ | ⟨_, log, f, hscan⟩
  · rw [hscan] at hc
    cases hc
    exact ⟨hl, b, hb, rfl⟩
  · rw [hscan] at hc
    cases hc

theorem Ready.lineFormat (h : Ready opener vars a s table) (symbols : Currency.Symbols) :
    (Cart.ofSettings symbols s).lineFormat = s.lineFormat :=
  if_neg (Settings.load_checked h.settings).2

theorem Completes.total {r : Receipt} {t : Text} (h : Completes opener vars a s table c r t) :
    r.total = ((bill a.scans).map fun e => table.price e.1 * e.2).sum := by
  obtain ⟨_, b, hb, rfl⟩ := h.accounts
  have htotal := (Cart.receipt_bill _ table h.receipt).2
  rwa [Basket.worth, hb.billed_eq] at htotal

theorem Completes.printed {r : Receipt} {t : Text} (h : Completes opener vars a s table c r t)
    (hjson : a.json = false) :
    ∃ lines total,
      List.Forall₂ (fun e line => LineFormat.render (Currency.symbol .standard s.currency)
        s.lineFormat e.2 e.1 (table.price e.1 * e.2) = .ok line) (bill a.scans) lines ∧
      Amount.format? (Currency.symbol .standard s.currency)
        ((bill a.scans).map fun e => table.price e.1 * e.2).sum = some total ∧
      t = Text.ofLines (lines ++ [Receipt.label ++ total]) := by
  have htotal := h.total
  obtain ⟨_, b, hb, rfl⟩ := h.accounts
  have hformat := h.ready.lineFormat .standard
  have htexts := Cart.receipt_texts (c := { Cart.ofSettings .standard s with basket := b })
    (by rw [hformat]; exact (Settings.load_checked h.ready.settings).1) h.receipt
  have hprinted := h.text
  rw [hjson, printed?, if_neg (by simp), Option.map_eq_some_iff] at hprinted
  obtain ⟨printed, hprinted, rfl⟩ := hprinted
  rw [Receipt.printed?_eq, Option.map_eq_some_iff] at hprinted
  obtain ⟨amount, hamount, rfl⟩ := hprinted
  simp only [hformat, hb.billed_eq] at htexts
  refine ⟨_, r.symbol ++ amount, htexts, ?_, rfl⟩
  have hsymbol : r.symbol = Currency.symbol .standard s.currency :=
    Cart.receipt_symbol _ table h.receipt
  rw [← htotal, Amount.format?, ← hsymbol]
  exact Option.map_eq_some_iff.mpr ⟨amount, hamount, rfl⟩

theorem Ready.completes_iff (h : Ready opener vars a s table) (hjson : a.json = false) :
    (∃ c r t, Completes opener vars a s table c r t) ↔
      AllLegal a.scans ∧ Writable table (bill a.scans) := by
  constructor
  · rintro ⟨c, r, t, hdone⟩
    obtain ⟨hl, b, hb, rfl⟩ := hdone.accounts
    refine ⟨hl, hb.writable_iff.mpr ?_⟩
    rw [← Cart.receipt_eq_none { Cart.ofSettings .standard s with basket := b } table hb.consistent,
      hdone.receipt]
    nofun
  · rintro ⟨hl, hw⟩
    rcases scanAll_ofSettings_cases s a.scans with ⟨_, b, hb, hscan⟩ | ⟨hn, _⟩
    · have hsome := hb.writable_iff.mp hw
      rw [← Cart.receipt_eq_none { Cart.ofSettings .standard s with basket := b } table
        hb.consistent] at hsome
      obtain ⟨r, hr⟩ := Option.ne_none_iff_exists'.mp hsome
      obtain ⟨_, _, hlines⟩ := Cart.receipt_printed _ table hr
      have htext : printed? a.json r = r.printed?.map Text.ofLines := by
        rw [hjson, printed?, if_neg (by simp)]
      rw [hlines] at htext
      exact ⟨_, r, _, h, by rw [hscan], hr, htext⟩
    · exact absurd hl hn

end

theorem run_unsettable {env : Environment} {file : Text} {u : Environment.Unsettable}
    (h : env.withFile file = .error u) (opener : Catalog.Opener) (words : List Text) :
    run opener env file words = ⟨.crash (.unsettable u), [], [], []⟩ := by
  rw [run, h]

theorem run_unparsed {env vars : Environment} {file : Text} (hvars : env.withFile file = .ok vars)
    {words : List Text} {e : Error} (h : parse words = .error e) (opener : Catalog.Opener) :
    run opener env file words =
      ⟨.exit 2, [], usage ++ "till: error: " ++ e.message ++ ['\n'], []⟩ := by
  rw [run, hvars]
  simp only [answer, h]

theorem run_receipt {env vars : Environment} {file : Text} (hfile : env.withFile file = .ok vars)
    {words : List Text} {a : Arguments} (h : parse words = .ok (.receipt a))
    (opener : Catalog.Opener) : run opener env file words = printReceipt opener vars a := by
  rw [run, hfile]
  simp only [answer, h]

/-- A call bills what its scans come to: it succeeds exactly where its settings are accepted, its
catalog is loaded, every scan is legal after those before it and every number can be written. Then
it prints a line for each item that is left, in the order in which the items came first, and the
total. Where it does not succeed it prints nothing. -/
theorem run_bills_net_scans (opener : Catalog.Opener) (env : Environment) (file : Text)
    {words : List Text} {a : Arguments} (hparse : parse words = .ok (.receipt a))
    (hjson : a.json = false) :
    let o := run opener env file words
    (o.ending = .exit 0 ↔ ∃ vars s table, env.withFile file = .ok vars ∧
      Ready opener vars a s table ∧ AllLegal a.scans ∧ Writable table (bill a.scans)) ∧
    (∀ vars s table, env.withFile file = .ok vars → Ready opener vars a s table →
      o.ending = .exit 0 → ∃ lines total,
        List.Forall₂ (fun e line => LineFormat.render (Currency.symbol .standard s.currency)
          s.lineFormat e.2 e.1 (table.price e.1 * e.2) = .ok line) (bill a.scans) lines ∧
        Amount.format? (Currency.symbol .standard s.currency)
          ((bill a.scans).map fun e => table.price e.1 * e.2).sum = some total ∧
        o.out = Text.ofLines (lines ++ ["TOTAL PRICE: " ++ total])) ∧
    (o.ending ≠ .exit 0 → o.out = []) := by
  intro o
  cases hfile : env.withFile file with
  | error u =>
      have ho : o = ⟨.crash (.unsettable u), [], [], []⟩ := run_unsettable hfile opener words
      simp [ho]
  | ok vars =>
      have ho : o = printReceipt opener vars a := run_receipt hfile hparse opener
      clear_value o
      subst ho
      have hout (h : (printReceipt opener vars a).ending = .exit 0) :
          ∃ s table c r t, Completes opener vars a s table c r t := by
        rcases printReceipt_cases opener vars a with hdone | ⟨hn, _⟩
        · exact hdone
        · exact absurd h hn
      refine ⟨⟨?_, ?_⟩, ?_, ?_⟩
      · intro h
        obtain ⟨s, table, c, r, t, hdone⟩ := hout h
        exact ⟨vars, s, table, rfl, hdone.ready,
          (hdone.ready.completes_iff hjson).mp ⟨c, r, t, hdone⟩⟩
      · rintro ⟨vars', s, table, hvars, hready, hbill⟩
        cases hvars
        obtain ⟨c, r, t, hdone⟩ := (hready.completes_iff hjson).mpr hbill
        exact hdone.outcome.1
      · intro vars' s table hvars hready h
        cases hvars
        obtain ⟨s', table', c, r, t, hdone⟩ := hout h
        cases hready.settings.symm.trans hdone.ready.settings
        cases hready.catalog.symm.trans hdone.ready.catalog
        obtain ⟨lines, total, hlines, htotal, rfl⟩ := hdone.printed hjson
        exact ⟨lines, total, hlines, htotal, hdone.outcome.2⟩
      · intro h
        rcases printReceipt_cases opener vars a with ⟨s, table, c, r, t, hdone⟩ | ⟨_, hnil⟩
        · exact absurd hdone.outcome.1 h
        · exact hnil

def basketWords : List Text :=
  ["apple:2", "banana", "apple:-2", "banana:3", "apple"].map String.toList

def basketArguments : Arguments :=
  ⟨.none, false, [⟨"apple", 2⟩, ⟨"banana", 1⟩, ⟨"apple", -2⟩, ⟨"banana", 3⟩, ⟨"apple", 1⟩]⟩

theorem run_bills_net_scans_basket :
    let o := run (fun _ => .error .notFound) [] [] basketWords
    parse basketWords = .ok (.receipt basketArguments) ∧ basketArguments.json = false ∧
      AllLegal basketArguments.scans ∧
      bill basketArguments.scans = ([("apple", 1), ("banana", 4)] : Table Int) ∧
      ∃ (lines : List Text) (total : Text),
        o.out = Text.ofLines (lines ++ ["TOTAL PRICE: " ++ total]) ∧
        o.out = Text.ofLines ["apple - 1 - €1.00", "banana - 4 - €8.00", "TOTAL PRICE: €9.00"] := by
  have hparse : parse basketWords = .ok (.receipt basketArguments) := by decide +kernel
  have hexit : (run (fun _ => .error .notFound) [] [] basketWords).ending = .exit 0 := by
    decide +kernel
  have hready : Ready (fun _ => .error .notFound) [] basketArguments .standard .standard :=
    ⟨by decide +kernel, rfl⟩
  obtain ⟨hiff, hprints, _⟩ := run_bills_net_scans (fun _ => .error .notFound) [] [] hparse rfl
  obtain ⟨_, _, _, _, _, hlegal, _⟩ := hiff.mp hexit
  obtain ⟨lines, total, _, _, hout⟩ :=
    hprints [] .standard .standard (by decide +kernel) hready hexit
  exact ⟨hparse, rfl, hlegal, by decide +kernel, lines, total, hout, by decide +kernel⟩

end Checkout.CommandLine
