import Checkout.Proofs.Nonnegative
import Checkout.Proofs.Renditions

namespace Checkout

/-- Where no price is below nothing, the total is the longest number of a document but for the
quantities, and those are written on the lines as well. -/
theorem Cart.receipt_json?_isSome {c : Cart} {prices : PriceTable} (hc : c.basket.Consistent)
    (hprices : ∀ item, 0 ≤ prices.price item) {r : Receipt} (h : (c.receipt prices).2 = some r) :
    r.json?.isSome ↔ r.total < Numeral.bound := by
  obtain ⟨hnonneg, hle⟩ := receipt_total_le hc hprices h
  rw [Receipt.json?_isSome]
  constructor
  · rintro ⟨_, htotal, _⟩
    omega
  · intro htotal
    refine ⟨?_, by omega, ?_⟩
    · intro l hl
      obtain ⟨hquantity, hprice, hline⟩ := receipt_charges hc hprices h hl
      obtain ⟨quantity, _, hwritten, _⟩ := receipt_line_text h hl
      have hshort := Numeral.lt_bound_of_write hwritten
      have hunit : l.unitPrice ≤ l.total := le_mul_of_one_le_right hprice hquantity
      have hwhole := hle l hl
      rw [Receipt.Line.document?_isSome]
      exact ⟨hshort, by omega, by omega⟩
    · obtain ⟨_, hamount, _⟩ := c.receipt_printed prices h
      rw [Receipt.formatted?, Amount.format?, hamount]
      rfl

namespace CommandLine

section

variable {opener : Catalog.Opener} {vars : Environment} {a : Arguments} {s : Settings}
  {table : PriceTable} {c : Cart} {r : Receipt} {t : Text}

theorem Ready.provided (h : Ready opener vars a s table) : Catalog.Provided table := by
  have hp := h.catalog
  rw [prices] at hp
  split at hp
  · cases hp
    exact .standard
  · split at hp
    · cases hp
    · cases hp
      exact .loaded (by assumption)

theorem Completes.asJson (h : Completes opener vars a s table c r t) {document : Text}
    (hdocument : r.json? = some document) :
    Completes opener vars a.asJson s table c r (document ++ ['\n']) where
  ready := h.ready.asJson
  scanned := h.scanned
  receipt := h.receipt
  text := congrArg (Option.map (· ++ ['\n'])) hdocument

theorem Completes.crash_asJson (h : Completes opener vars a s table c r t)
    (hdocument : r.json? = none) :
    printReceipt opener vars a.asJson =
      ⟨.crash .longNumeral, [], [], (printReceipt opener vars a).log⟩ := by
  have hc := h.scanned
  rcases hscan : scanAll (.ofSettings .standard s) a.scans with ⟨log, found⟩
  rw [hscan] at hc
  subst hc
  have hnone : (c.receipt table).2.bind (printed? true) = none := by
    rw [h.receipt, Option.bind_some, printed?, if_pos rfl, hdocument]
    rfl
  have ho : printReceipt opener vars a.asJson =
      ⟨.crash .longNumeral, [], [], (prices opener s).1 ++ log ++ (c.receipt table).1⟩ := by
    refine (h.ready.asJson.scanned hscan).trans ?_
    rw [deliver]
    simp only [Arguments.asJson, hnone]
  rw [(printReceipt_asJson opener vars a).1, ho]

theorem Completes.consistent (h : Completes opener vars a s table c r t) :
    c.basket.Consistent := by
  obtain ⟨_, b, hb, rfl⟩ := h.accounts
  exact hb.consistent

theorem Completes.json?_isSome (h : Completes opener vars a s table c r t) :
    r.json?.isSome ↔ r.total < Numeral.bound :=
  Cart.receipt_json?_isSome h.consistent h.ready.provided.price_nonneg h.receipt

theorem Completes.total_range (h : Completes opener vars a s table c r t) :
    0 ≤ r.total ∧ r.total / 100 < Numeral.bound := by
  obtain ⟨hnonneg, _⟩ := Cart.receipt_total_le h.consistent h.ready.provided.price_nonneg h.receipt
  obtain ⟨_, hamount, _⟩ := c.receipt_printed table h.receipt
  have hshort := Amount.lt_bound_of_text hamount
  exact ⟨hnonneg, by omega⟩

/-- What a call with the flag comes to where the call without it prints a receipt. -/
theorem Completes.document (h : Completes opener vars a s table c r t) (hjson : a.json = false) :
    let o := printReceipt opener vars a
    let o' := printReceipt opener vars a.asJson
    (r.total < Numeral.bound ∧ o'.ending = .exit 0 ∧ o'.log = o.log ∧
      ∃ d, Document.read? o'.out = some d ∧ d.total = r.total ∧
        o.out = Text.ofLines (d.lines.map (·.text) ++ [Receipt.label ++ d.formatted])) ∨
    (Numeral.bound ≤ r.total ∧ o' = ⟨.crash .longNumeral, [], [], o.log⟩) := by
  intro o o'
  have hshort := h.json?_isSome
  cases hdocument : r.json? with
  | none =>
      rw [hdocument] at hshort
      exact .inr ⟨Int.not_lt.mp (mt hshort.mpr nofun), h.crash_asJson hdocument⟩
  | some document =>
      rw [hdocument] at hshort
      have h' := h.asJson hdocument
      obtain ⟨formatted, _, hread, htext⟩ := h'.asText hjson
      refine .inl ⟨hshort.mp rfl, h'.outcome.1, (printReceipt_asJson opener vars a).1.symm,
        .ofReceipt r formatted, ?_, rfl, ?_⟩
      · rw [h'.outcome.2]
        exact hread
      · rw [htext.outcome.2, Document.ofReceipt, List.map_map]
        rfl

end

/-- A receipt that is printed as a text is printed as a document as well, unless its total is too
long to be written in minor units: a text has the total in major units, which are two digits
shorter. Then the call with the flag ends without a word. -/
theorem document_of_text {opener : Catalog.Opener} {env : Environment} {file : Text}
    {words : List Text} {a : Arguments} (hparse : parse words = .ok (.receipt a))
    (hjson : a.json = false) (hexit : (run opener env file words).ending = .exit 0) :
    let o := run opener env file words
    let o' := run opener env file ("--json" :: words)
    ∃ vars s table, env.withFile file = .ok vars ∧ Ready opener vars a s table ∧
      let total := ((bill a.scans).map fun e => table.price e.1 * e.2).sum
      0 ≤ total ∧ total / 100 < Numeral.bound ∧ (o'.ending = .exit 0 ↔ total < Numeral.bound) ∧
      (total < Numeral.bound → o'.log = o.log ∧
        ∃ d, Document.read? o'.out = some d ∧ d.total = total ∧
          o.out = Text.ofLines (d.lines.map (·.text) ++ ["TOTAL PRICE: " ++ d.formatted])) ∧
      (Numeral.bound ≤ total → o' = ⟨.crash .longNumeral, [], [], o.log⟩) := by
  intro o o'
  have hhelp : parse words ≠ .ok .help := by
    rw [hparse]
    nofun
  rcases run_asJson opener env file hhelp with ⟨vars, a', hvars, ha, ho, ho'⟩ | ⟨_, hfailed, _⟩
  · cases hparse.symm.trans ha
    rw [ho] at hexit
    rcases printReceipt_cases opener vars a with ⟨s, table, c, r, t, h⟩ | ⟨hfailed, _⟩
    · obtain ⟨hnonneg, hmajor⟩ := h.total_range
      have hdocument := h.document hjson
      rw [h.total] at hnonneg hmajor hdocument
      rw [← ho, ← ho'] at hdocument
      refine ⟨vars, s, table, hvars, h.ready, hnonneg, hmajor, ?_⟩
      rcases hdocument with ⟨hshort, hdone, hlog, hd⟩ | ⟨hlong, hcrash⟩
      · exact ⟨iff_of_true hdone hshort, fun _ => ⟨hlog, hd⟩,
          fun hlong => absurd hshort (Int.not_lt.mpr hlong)⟩
      · refine ⟨iff_of_false ?_ (Int.not_lt.mpr hlong),
          fun hshort => absurd hshort (Int.not_lt.mpr hlong), fun _ => hcrash⟩
        have ho' : o' = _ := hcrash
        rw [ho']
        nofun
    · exact absurd hexit hfailed
  · exact absurd hexit hfailed

theorem document_of_text_basket :
    let o := run (fun _ => .error .notFound) [] [] basketWords
    let o' := run (fun _ => .error .notFound) [] [] ("--json" :: basketWords)
    parse basketWords = .ok (.receipt basketArguments) ∧ basketArguments.json = false ∧
      o.ending = .exit 0 ∧ o'.ending = .exit 0 ∧
      ∃ d, Document.read? o'.out = some d ∧ d.total = 900 ∧
        o.out = Text.ofLines (d.lines.map (·.text) ++ ["TOTAL PRICE: " ++ d.formatted]) := by
  intro o o'
  have hparse : parse basketWords = .ok (.receipt basketArguments) := by decide +kernel
  have hexit : o.ending = .exit 0 := by decide +kernel
  have hready : Ready (fun _ => .error .notFound) [] basketArguments .standard .standard :=
    ⟨by decide +kernel, rfl⟩
  have hfile : Environment.withFile [] [] = .ok [] := by decide +kernel
  have htotal : ((bill basketArguments.scans).map fun e =>
      PriceTable.standard.price e.1 * e.2).sum = 900 := by decide +kernel
  have hshort : (900 : Int) < Numeral.bound := by decide +kernel
  obtain ⟨vars, s, table, hvars, hready', _, _, hiff, hdocument, _⟩ :=
    document_of_text hparse rfl hexit
  cases hfile.symm.trans hvars
  cases hready.settings.symm.trans hready'.settings
  cases hready.catalog.symm.trans hready'.catalog
  rw [htotal] at hiff hdocument
  exact ⟨hparse, rfl, hexit, hiff.mpr hshort, (hdocument hshort).2⟩

def longWord : Text := "apple:1" ++ List.replicate 4299 '0'

def longArguments : Arguments := ⟨.none, false, [⟨"apple", (10 ^ 4299 : Nat)⟩]⟩

/-- The total has two digits more than the units, and as many as them in major units. -/
theorem long_total_crashes :
    let opener : Catalog.Opener := fun _ => .error .notFound
    parse [longWord] = .ok (.receipt longArguments) ∧
      (run opener [] [] [longWord]).ending = .exit 0 ∧
      run opener [] [] ["--json", longWord] = ⟨.crash .longNumeral, [], [], []⟩ := by
  intro opener
  have hfile : Environment.withFile [] [] = .ok [] := by decide +kernel
  have hparse : parse [longWord] = .ok (.receipt longArguments) := by decide +kernel
  have hjson : parse ["--json", longWord] = .ok (.receipt longArguments.asJson) := by
    rw [parse_asJson, hparse]
    rfl
  refine ⟨hparse, ?_, ?_⟩
  · rw [run_receipt hfile hparse]
    decide +kernel
  · rw [run_receipt hfile hjson]
    decide +kernel

end CommandLine

end Checkout
