import Checkout.Proofs.Document
import Checkout.Proofs.Outcome
import Checkout.Proofs.Totals

namespace Checkout.CommandLine

def Arguments.asJson (a : Arguments) : Arguments := { a with json := true }

def Request.asJson : Request → Request
  | .help => .help
  | .receipt a => .receipt a.asJson

namespace Progress

def asJson (p : Progress) : Progress := { p with json := true }

theorem word_asJson (p : Progress) (t : Text) : p.asJson.word t = (p.word t).asJson := by
  cases h : p.scans <;> simp only [word, asJson, h]

theorem separator_asJson (p : Progress) : p.asJson.separator = p.separator.asJson := by
  cases h : p.scans <;> simp only [separator, asJson, h]

theorem endRun_asJson (p : Progress) : p.asJson.endRun = p.endRun.map asJson := by
  cases h : p.scans with
  | running words =>
      simp only [endRun, asJson, h]
      cases parseAll words <;> rfl
  | _ => simp only [endRun, asJson, h, Except.map]

theorem endRun_asJson_ok {p q : Progress} (h : p.endRun = .ok q) :
    p.asJson.endRun = .ok q.asJson := by
  rw [endRun_asJson, h]
  rfl

theorem endRun_asJson_error {p : Progress} {e : Error} (h : p.endRun = .error e) :
    p.asJson.endRun = .error e := by
  rw [endRun_asJson, h]
  rfl

theorem setValue_asJson (p : Progress) (f : Flag) (t : Text) :
    p.asJson.setValue f t = (p.setValue f t).asJson := by
  cases f <;> rfl

theorem switch_asJson (p : Progress) (f : Flag) : p.asJson.switch f = (p.switch f).asJson := by
  cases f <;> rfl

theorem finish_asJson (p : Progress) : p.asJson.finish = p.finish.map Arguments.asJson := by
  rw [finish, finish, endRun_asJson]
  cases p.endRun with
  | error e => rfl
  | ok q =>
      change (if q.left = [] then _ else _) = Except.map _ (if q.left = [] then _ else _)
      split <;> rfl

end Progress

theorem take_asJson (p : Progress) (words : List Word) :
    take p.asJson words = (take p words).map Request.asJson := by
  -- All words but plain ones end a run of scans, which fails or not before they count.
  fun_induction take p words with
  | case1 p =>
      rw [take, Progress.finish_asJson]
      cases p.finish <;> rfl
  | case2 p t words ih => rw [take, Progress.word_asJson, ih]
  | case3 p words ih => rw [take, Progress.separator_asJson, ih]
  | case4 p t words e h | case6 p tail words e h | case8 p f value words e h =>
      simp only [take, Progress.endRun_asJson_error h, Except.map]
  | case5 p t words q h ih =>
      simp only [take, Progress.endRun_asJson_ok h]
      exact ih
  | case7 p tail words q h =>
      simp only [take, Progress.endRun_asJson_ok h]
      cases checkTail tail <;> rfl
  | case9 p f value words q h hf ih =>
      simp only [take, Progress.endRun_asJson_ok h, if_pos hf, Progress.setValue_asJson, ih]
  | case10 p f value words q h hf =>
      simp only [take, Progress.endRun_asJson_ok h, if_neg hf, Except.map]
  | case11 p f words e h => simp only [take, Progress.endRun_asJson_error h, Except.map]
  | case12 p f q h hf value words ih =>
      simp only [take, Progress.endRun_asJson_ok h, if_pos hf, Progress.setValue_asJson, ih]
  | case13 p f words q h hf hplain =>
      simp only [take, Progress.endRun_asJson_ok h, if_pos hf, Except.map]
  | case14 p words q h hf =>
      simp only [take, Progress.endRun_asJson_ok h, if_neg hf, if_true]
      rfl
  | case15 p f words q h hf hhelp ih =>
      simp only [take, Progress.endRun_asJson_ok h, if_neg hf, if_neg hhelp,
        Progress.switch_asJson, ih]

theorem parse_asJson (words : List Text) :
    parse ("--json" :: words) = (parse words).map Request.asJson := by
  have hflag : classifyAll ("--json" :: words) =
      (classifyAll words).map (.flag .json none :: ·) := by
    rw [classifyAll, if_neg (by decide)]
    rfl
  rw [parse, parse, hflag]
  cases classifyAll words with
  | error e => rfl
  | ok found =>
      have hfirst : take .start (.flag .json none :: found) = take Progress.start.asJson found := by
        rw [take]
        rfl
      exact hfirst.trans (take_asJson .start found)

section

variable {opener : Catalog.Opener} {vars : Environment} {a : Arguments} {s : Settings}
  {table : PriceTable} {c : Cart} {r : Receipt} {t : Text}

theorem Ready.asJson (h : Ready opener vars a s table) : Ready opener vars a.asJson s table :=
  ⟨h.settings, h.catalog⟩

/-- The two renditions part only where a receipt is printed, and that is never refused. -/
theorem printReceipt_asJson (opener : Catalog.Opener) (vars : Environment) (a : Arguments) :
    let o := printReceipt opener vars a
    let o' := printReceipt opener vars a.asJson
    o.log = o'.log ∧ (o = o' ∨ o.ending ≠ .exit 2 ∧ o'.ending ≠ .exit 2) := by
  intro o o'
  cases hs : Settings.load vars a.overrides with
  | error errors =>
      have hs' : Settings.load vars a.asJson.overrides = .error errors := hs
      have heq : o = o' := (printReceipt_rejected hs).trans (printReceipt_rejected hs').symm
      exact ⟨congrArg _ heq, .inl heq⟩
  | ok s =>
      cases hp : (prices opener s).2 with
      | error e =>
          have hs' : Settings.load vars a.asJson.overrides = .ok s := hs
          have heq : o = o' :=
            (printReceipt_unloaded hs hp).trans (printReceipt_unloaded hs' hp).symm
          exact ⟨congrArg _ heq, .inl heq⟩
      | ok table =>
          have hready : Ready opener vars a s table := ⟨hs, hp⟩
          rcases hscan : scanAll (.ofSettings .standard s) a.scans with ⟨log, f | c⟩
          · have ho := hready.printReceipt_eq hscan
            have heq : o = o' := by
              refine ho.trans (Eq.trans ?_ (hready.asJson.printReceipt_eq hscan).symm)
              cases f <;> rfl
            exact ⟨congrArg _ heq, .inl heq⟩
          · have ho := deliver_ending_log a.json ((prices opener s).1 ++ log) c table
            have ho' := deliver_ending_log a.asJson.json ((prices opener s).1 ++ log) c table
            rw [← hready.scanned hscan] at ho
            rw [← hready.asJson.scanned hscan] at ho'
            exact ⟨ho.2.trans ho'.2.symm, .inr ⟨ho.1, ho'.1⟩⟩

theorem Completes.asText (h : Completes opener vars a.asJson s table c r t)
    (hjson : a.json = false) :
    ∃ formatted, r.formatted? = some formatted ∧
      Document.read? t = some (.ofReceipt r formatted) ∧
      Completes opener vars a s table c r
        (Text.ofLines (r.lines.map (·.text) ++ [Receipt.label ++ formatted])) := by
  have htext : r.json?.map (· ++ ['\n']) = some t := h.text
  rw [Option.map_eq_some_iff] at htext
  obtain ⟨document, hdocument, rfl⟩ := htext
  obtain ⟨formatted, hformatted, hread⟩ := Receipt.read?_json? hdocument
  have hready : Ready opener vars a s table := ⟨h.ready.settings, h.ready.catalog⟩
  refine ⟨formatted, hformatted, hread, hready, h.scanned, h.receipt, ?_⟩
  rw [hjson, printed?, if_neg (by simp), Receipt.printed?, Receipt.totalLine?, hformatted]
  rfl

theorem Completes.billed (h : Completes opener vars a s table c r t) :
    ∃ b, Accounts a.scans b ∧ r.lines.map (·.item) = b.billed.names := by
  obtain ⟨_, b, hb, rfl⟩ := h.accounts
  have hbill := congrArg (List.map Prod.fst) (Cart.receipt_bill _ table h.receipt).1
  rw [List.map_map, List.map_map] at hbill
  exact ⟨b, hb, hbill⟩

theorem Completes.items (h : Completes opener vars a s table c r t) :
    (r.lines.map (·.item)).Nodup := by
  obtain ⟨b, hb, hitems⟩ := h.billed
  rw [hitems]
  exact hb.consistent.billed_nodup

theorem Completes.line (h : Completes opener vars a s table c r t) {l : Receipt.Line}
    (hl : l ∈ r.lines) : 0 < l.quantity ∧ l.rendered = true := by
  obtain ⟨_, b, hb, rfl⟩ := h.accounts
  constructor
  · exact hb.consistent.billed_positive (Cart.receipt_billed _ table h.receipt hl).1
  · obtain ⟨log, hline⟩ := Cart.receipt_line h.receipt hl
    refine (Cart.line?_checked ?_ hline).2.1
    have hformat : ({ Cart.ofSettings .standard s with basket := b } : Cart).lineFormat =
        s.lineFormat := h.ready.lineFormat .standard
    rw [hformat]
    exact (Settings.load_checked h.ready.settings).1

theorem printReceipt_refused (h : (printReceipt opener vars a).ending = .exit 2) :
    (printReceipt opener vars a).out = [] := by
  rcases printReceipt_cases opener vars a with ⟨s, table, c, r, t, hdone⟩ | ⟨_, hout⟩
  · rw [hdone.outcome.1] at h
    cases h
  · exact hout

end

/-- The words of a call are read alike, and are refused alike, with and without the flag. -/
theorem run_asJson (opener : Catalog.Opener) (env : Environment) (file : Text) {words : List Text}
    (hhelp : parse words ≠ .ok .help) :
    (∃ vars a, env.withFile file = .ok vars ∧ parse words = .ok (.receipt a) ∧
      run opener env file words = printReceipt opener vars a ∧
      run opener env file ("--json" :: words) = printReceipt opener vars a.asJson) ∨
    run opener env file words = run opener env file ("--json" :: words) ∧
      (run opener env file words).ending ≠ .exit 0 ∧ (run opener env file words).out = [] := by
  cases hvars : env.withFile file with
  | error u =>
      rw [run_unsettable hvars, run_unsettable hvars]
      exact .inr ⟨rfl, by simp, rfl⟩
  | ok vars =>
      have hjson := parse_asJson words
      cases hparse : parse words with
      | error e =>
          rw [hparse] at hjson
          rw [run_unparsed hvars hparse, run_unparsed hvars hjson]
          exact .inr ⟨rfl, by simp, rfl⟩
      | ok request =>
          cases request with
          | help => exact absurd hparse hhelp
          | receipt a =>
              rw [hparse] at hjson
              exact .inl ⟨vars, a, rfl, rfl, run_receipt hvars hparse opener,
                run_receipt hvars hjson opener⟩

/-- A receipt is the same printed as text and as a document: the two calls are refused alike and
log alike, and what the document tells is what the text is made of. -/
theorem run_renditions (opener : Catalog.Opener) (env : Environment) (file : Text)
    {words : List Text} (hhelp : parse words ≠ .ok .help)
    (htext : ∀ a, parse words = .ok (.receipt a) → a.json = false) :
    let o := run opener env file words
    let o' := run opener env file ("--json" :: words)
    (o.ending = .exit 2 ∨ o'.ending = .exit 2 →
      o.ending = .exit 2 ∧ o'.ending = .exit 2 ∧ o.log = o'.log ∧ o.out = [] ∧ o'.out = []) ∧
    (o'.ending = .exit 0 → o.ending = .exit 0 ∧ o.log = o'.log ∧
      ∃ d, Document.read? o'.out = some d ∧
        o.out = Text.ofLines (d.lines.map (·.text) ++ ["TOTAL PRICE: " ++ d.formatted]) ∧
        (∀ l ∈ d.lines, l.total = l.quantity * l.unitPrice) ∧
        d.total = (d.lines.map (·.total)).sum ∧ (d.lines.map (·.item)).Nodup ∧
        ∀ l ∈ d.lines, 0 < l.quantity ∧ l.rendered = true) := by
  intro o o'
  rcases run_asJson opener env file hhelp with ⟨vars, a, _, hparse, ho, ho'⟩ | ⟨heq, hexit, hout⟩
  · obtain ⟨hlog, halike⟩ := printReceipt_asJson opener vars a
    rw [show o = _ from ho, show o' = _ from ho']
    refine ⟨fun hrefused => ?_, fun hdone => ?_⟩
    · rcases halike with heq | ⟨h, h'⟩
      · rw [← heq, or_self] at hrefused
        rw [← heq]
        have hout := printReceipt_refused hrefused
        exact ⟨hrefused, hrefused, rfl, hout, hout⟩
      · exact absurd hrefused (not_or_intro h h')
    · rcases printReceipt_cases opener vars a.asJson with ⟨s, table, c, r, t, h'⟩ | ⟨hn, _⟩
      · obtain ⟨formatted, _, hread, h⟩ := h'.asText (htext a hparse)
        refine ⟨h.outcome.1, hlog, .ofReceipt r formatted, ?_, ?_, ?_, ?_, ?_, ?_⟩
        · rw [h'.outcome.2]
          exact hread
        · rw [h.outcome.2, Document.ofReceipt, List.map_map]
          rfl
        · rintro _ hmem
          obtain ⟨l, _, rfl⟩ := List.mem_map.mp hmem
          exact Int.mul_comm _ _
        · rw [Document.ofReceipt, List.map_map]
          exact Cart.receipt_total_lines h.receipt
        · rw [Document.ofReceipt, List.map_map]
          exact h.items
        · rintro _ hmem
          obtain ⟨l, hl, rfl⟩ := List.mem_map.mp hmem
          exact h.line hl
      · exact absurd hdone hn
  · have heq : o = o' := heq
    rw [← heq]
    refine ⟨fun hrefused => ?_, fun hdone => absurd hdone hexit⟩
    rw [or_self] at hrefused
    exact ⟨hrefused, hrefused, rfl, hout, hout⟩

def basketDocument : Document :=
  ⟨"€", [⟨"apple", 1, 100, 100, "apple - 1 - €1.00", true⟩,
    ⟨"banana", 4, 200, 800, "banana - 4 - €8.00", true⟩], 900, "€9.00"⟩

theorem run_renditions_basket :
    let o := run (fun _ => .error .notFound) [] [] basketWords
    let o' := run (fun _ => .error .notFound) [] [] ("--json" :: basketWords)
    parse basketWords = .ok (.receipt basketArguments) ∧ o'.ending = .exit 0 ∧
      o.ending = .exit 0 ∧ Document.read? o'.out = some basketDocument ∧
      o.out = Text.ofLines
        (basketDocument.lines.map (·.text) ++ ["TOTAL PRICE: " ++ basketDocument.formatted]) ∧
      (basketDocument.lines.map (·.item)).Nodup := by
  intro o o'
  have hparse : parse basketWords = .ok (.receipt basketArguments) := by decide +kernel
  have hexit : o'.ending = .exit 0 := by decide +kernel
  have hdocument : Document.read? o'.out = some basketDocument := by decide +kernel
  have hhelp : parse basketWords ≠ .ok .help := by
    rw [hparse]
    nofun
  have htext (a : Arguments) (ha : parse basketWords = .ok (.receipt a)) : a.json = false := by
    cases hparse.symm.trans ha
    rfl
  obtain ⟨_, hprinted⟩ := run_renditions (fun _ => .error .notFound) [] [] hhelp htext
  obtain ⟨hexits, _, d, hd, hout, _, _, hitems, _⟩ := hprinted hexit
  cases hd.symm.trans hdocument
  exact ⟨hparse, hexit, hexits, hdocument, hout, hitems⟩

end Checkout.CommandLine
