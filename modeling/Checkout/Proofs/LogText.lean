import Checkout.Proofs.Controls
import Checkout.Proofs.Rows

namespace Checkout

open Text (isControl Plain Controls SameControls)

structure Log.Entry.Warns (e : Log.Entry) (item : Text) : Prop where
  level : e.level = .warning
  controls : SameControls e.message (Log.sanitized item)

theorem Log.Entry.Warns.plain {e : Log.Entry} {item : Text} (h : e.Warns item)
    (hitem : Controls (· ∈ Log.escaped) item) : Plain e.message :=
  h.controls.plain (Log.plain_sanitized hitem)

theorem Numeral.plain_write {n : Int} {t : Text} (h : write? n = some t) : Plain t := by
  rw [write?] at h
  split at h
  · cases h
    exact plain_text n
  · cases h

theorem Template.Unknown.plain_message (u : Unknown) : Plain u.message := by
  have hmessage : u.message = Unknown.wording ++ ": " ++ Text.quoted u.token ++ " at index " ++
      Numeral.text u.position := rfl
  rw [hmessage]
  simp only [Text.plain_append]
  exact ⟨⟨⟨by decide, Text.plain_quoted u.token⟩, by decide⟩, Numeral.plain_text _⟩

namespace Basket

variable {b : Basket} {r : Refused} {item : Text} {quantity : Int}

theorem add_refused (h : b.add item quantity = .error r) : r.item = item := by
  rw [add] at h
  split at h
  · split at h <;> cases h
    rfl
  · split at h
    · cases h
      rfl
    · split at h <;> cases h

theorem remove_refused (h : b.remove item quantity = .error r) : r.item = item := by
  rw [remove] at h
  split at h
  · cases h
    rfl
  · exact add_refused h

theorem Refusal.plain_wording (cause : Refusal) : Plain cause.wording := by
  cases cause <;> decide

theorem warning?_warns {log : List Log.Entry} (h : b.warning? r = some log) :
    ∀ e ∈ log, e.Warns r.item := by
  have hitem := SameControls.refl (Log.sanitized r.item)
  rw [warning?] at h
  split at h
  · obtain ⟨q, hq, rfl⟩ := Option.map_eq_some_iff.mp h
    refine List.forall_mem_singleton.mpr ⟨rfl, hitem.after ?_⟩
    simp only [Text.plain_append]
    exact ⟨⟨by decide, Numeral.plain_write hq⟩, by decide⟩
  · split at h
    next q held hq hheld =>
      cases h
      refine List.forall_mem_singleton.mpr ⟨rfl, ?_⟩
      refine (((hitem.after ?_).before ?_).before ?_).before ?_
      · simp only [Text.plain_append]
        exact ⟨⟨by decide, Numeral.plain_write hq⟩, by decide⟩
      · decide
      · exact Numeral.plain_write hheld
      · decide
    next => cases h
  · cases h
    exact List.forall_mem_nil _

/-- Only a scan puts an item at a place. -/
theorem mem_order_add {b' : Basket} (h : b.add item quantity = .ok b') {other : Text}
    (ho : other ∈ b'.order) : other = item ∨ other ∈ b.order := by
  rcases add_cases h with ⟨_, _, rfl⟩ | ⟨_, _, _, rfl⟩ | ⟨_, _, _, rfl⟩
  · exact (mem_place item other b.order).mp ho
  · exact .inr ho
  · exact .inr ho

end Basket

namespace Cart

variable (c : Cart) (prices : PriceTable)

theorem settle_warns {item : Text} {found : Except Basket.Refused Basket}
    (h : ∀ r, found = .error r → r.item = item) : ∀ e ∈ (c.settle found).1, e.Warns item := by
  cases found with
  | ok b => exact List.forall_mem_nil _
  | error r =>
      rw [settle, refuse]
      cases hw : c.basket.warning? r with
      | none => exact List.forall_mem_nil _
      | some log =>
          rw [← h r rfl]
          exact Basket.warning?_warns hw

theorem add_warns (item : Text) (quantity : Int) : ∀ e ∈ (c.add item quantity).1, e.Warns item :=
  c.settle_warns fun _ => Basket.add_refused

theorem remove_warns (item : Text) (quantity : Int) :
    ∀ e ∈ (c.remove item quantity).1, e.Warns item :=
  c.settle_warns fun _ => Basket.remove_refused

theorem blankWarning_warns (item : Text) (u : Template.Unknown) :
    (blankWarning item u).Warns item where
  level := rfl
  controls := by
    refine (((SameControls.refl _).after ?_).before ?_).before u.plain_message
    · decide
    · decide

theorem lines?_warns (entries : List (Text × Int)) :
    ∀ e ∈ (c.lines? prices entries).1, ∃ entry ∈ entries, e.Warns entry.1 := by
  induction entries with
  | nil => exact List.forall_mem_nil _
  | cons entry entries ih =>
      rw [lines?]
      cases h : c.line? prices entry.1 entry.2 with
      | none => exact List.forall_mem_nil _
      | some found =>
          refine List.forall_mem_append.mpr ⟨?_, ?_⟩
          · rcases line?_cases h with ⟨_, _, hlog⟩ | ⟨u, _, _, _, hlog⟩
            · rw [hlog]
              exact List.forall_mem_nil _
            · rw [hlog, List.forall_mem_singleton]
              exact ⟨entry, List.mem_cons_self, blankWarning_warns entry.1 u⟩
          · intro e he
            obtain ⟨entry', hentry, hwarns⟩ := ih e he
            exact ⟨entry', List.mem_cons_of_mem _ hentry, hwarns⟩

theorem receipt_warns :
    ∀ e ∈ (c.receipt prices).1, ∃ item ∈ c.basket.order, e.Warns item := by
  intro e he
  obtain ⟨entry, hentry, hwarns⟩ := c.lines?_warns prices c.basket.billed e he
  have hname : entry.1 ∈ c.basket.billed.names := List.mem_map_of_mem hentry
  rw [Basket.billed_names] at hname
  exact ⟨entry.1, (List.mem_filter.mp hname).1, hwarns⟩

end Cart

namespace Register

theorem step_warns (r : Register) (s : Step) : ∀ e ∈ (r.step s).2.log,
    ∃ item, (s.item? = some item ∨ item ∈ r.cart.basket.order) ∧ e.Warns item := by
  have hscan (item : Text) (found : List Log.Entry × Except Cart.Failure Cart) :
      (r.scanned item found).2.log = found.1 := by
    rcases found with ⟨log, f | c⟩ <;> rfl
  intro e he
  cases s with
  | add item d =>
      rw [step, hscan] at he
      exact ⟨item, .inl rfl, r.cart.add_warns item d e he⟩
  | remove item n =>
      rw [step, hscan] at he
      exact ⟨item, .inl rfl, r.cart.remove_warns item n e he⟩
  | unitsOf | contains | clear | setFormat | setConsume | setPrice => cases he
  | receipt | printToRoll | printToStream =>
      rw [step_bills_log r rfl] at he
      obtain ⟨item, hitem, hwarns⟩ := r.cart.receipt_warns r.prices e he
      exact ⟨item, .inr hitem, hwarns⟩

theorem mem_order_step {r : Register} {s : Step} {item : Text}
    (h : item ∈ (r.step s).1.cart.basket.order) :
    s.item? = some item ∨ item ∈ r.cart.basket.order := by
  cases r.event_effect s with
  | kept _ _ _ hb =>
      rw [event_after, event_before] at hb
      exact .inr (hb ▸ h)
  | moved item' d hd _ _ hb =>
      rcases Basket.mem_order_add hb h with rfl | hold
      · exact .inl (Event.item?_of_delta? hd)
      · exact .inr hold
  | emptied _ _ _ hb =>
      rw [event_after] at hb
      rw [hb] at h
      cases h

theorem run_warns (symbol : Text) (lineFormat : Option Text) (consume : Bool) (prices : PriceTable)
    (steps : List Step) : ∀ e ∈ (fresh symbol lineFormat consume prices).run steps,
      ∀ entry ∈ e.reply.log, ∃ s ∈ steps, ∃ item, s.item? = some item ∧ entry.Warns item := by
  -- What has a place before a step was scanned by one of the steps.
  have hplaced : ∀ e ∈ (fresh symbol lineFormat consume prices).run steps,
      ∀ item ∈ e.before.cart.basket.order, ∃ s ∈ steps, s.item? = some item := by
    apply run_before (P := fun r => ∀ item ∈ r.cart.basket.order, ∃ s ∈ steps, s.item? = some item)
    · exact List.forall_mem_nil _
    intro r s hs h item hitem
    rcases mem_order_step hitem with hscan | hold
    · exact ⟨s, hs, hscan⟩
    · exact h item hold
  intro e he entry hentry
  have hstep : e.step ∈ steps := by
    rw [← (fresh symbol lineFormat consume prices).run_steps steps]
    exact List.mem_map_of_mem he
  have hevent := congrArg Event.reply (mem_run he)
  rw [hevent] at hentry
  obtain ⟨item, hscan | hplace, hwarns⟩ := e.before.step_warns e.step entry hentry
  · exact ⟨e.step, hstep, item, hscan, hwarns⟩
  · obtain ⟨s, hs, hitem⟩ := hplaced e he item hplace
    exact ⟨s, hs, item, hitem, hwarns⟩

end Register

theorem Catalog.load_missing {opener : Opener} {path column : Text}
    (h : load opener path = .error (.content (.missingColumn column))) :
    column = ("name" : Text) ∨ column = ("price" : Text) := by
  have hsheet (s : Csv.Sheet) (hs : ofSheet s = .error (.content (.missingColumn column))) :
      column = ("name" : Text) ∨ column = ("price" : Text) := by
    rcases s with ⟨_ | ⟨header, records⟩, fault⟩
    · cases fault with
      | none =>
          cases hs
          exact .inl rfl
      | some f => cases hs
    · rw [ofSheet] at hs
      cases hrecords : ofRecords header records with
      | error f =>
          simp only [hrecords] at hs
          cases hs
          exact ((ofRecords_eq_missing header records column).mp hrecords).imp And.left And.left
      | ok table => cases fault <;> simp [hrecords] at hs
  rw [load] at h
  cases hopen : opener path with
  | error e =>
      rw [hopen] at h
      cases h
  | ok bytes =>
      rw [hopen] at h
      exact hsheet _ h

/-- What is told about a flaw shows the control characters of its source and no others. -/
theorem Catalog.Flaw.report_controls (source : Text) {f : Flaw}
    (h : ∀ column, f = .missingColumn column → Plain column) :
    SameControls (f.report source).message source := by
  have hsource := SameControls.refl source
  cases f with
  | missingColumn column =>
      have hplace : SameControls (Report.place (some source) none) source :=
        (hsource.after (by decide)).before (by decide)
      exact hplace.after (Text.plain_append.mpr ⟨by decide, h column rfl⟩)
  | badPrice row =>
      have hplace : SameControls (Report.place (some source) (some row)) source :=
        (((hsource.after (by decide)).before (by decide)).before
          (Numeral.plain_text row)).before (by decide)
      exact hplace.after (by decide)

namespace CommandLine

/-- What a call logs: how many of its settings are refused, a warning on one of its scans, or what
becomes of its catalog, with the name of the file as it is. Anything else has no control
characters. -/
inductive Logs (path? : Option Text) (scans : List Scan) (e : Log.Entry) : Prop
  | settings (count : Nat) (h : e = invalidSettings count)
  | scan (s : Scan) (hs : s ∈ scans) (h : e.Warns s.item)
  | catalog (path : Text) (hpath : path? = some path) (hlevel : e.level = .info ∨ e.level = .error)
      (h : SameControls e.message (Files.baseName path))
  | plain (h : Plain e.message)

section

variable {opener : Catalog.Opener} {vars : Environment} {a : Arguments} {s : Settings}
  {table : PriceTable}

theorem plain_cannotPrint {reason : Text} (h : Plain reason) :
    Plain (cannotPrint reason).message :=
  Text.plain_append.mpr ⟨by decide, h⟩

theorem invalidSettings_prefix (count : Nat) :
    "Invalid settings:".toList <+: (invalidSettings count).message := by
  have hword : "Invalid settings:".toList <+: "Invalid settings: ".toList := by decide
  rw [invalidSettings, List.append_assoc, List.append_assoc, List.append_assoc]
  exact hword.trans (List.prefix_append _ _)

theorem scanAll_warns (c : Cart) (scans : List Scan) :
    ∀ e ∈ (scanAll c scans).1, ∃ s ∈ scans, e.Warns s.item := by
  induction scans generalizing c with
  | nil => exact List.forall_mem_nil _
  | cons s scans ih =>
      have hfirst : ∀ e ∈ (c.add s.item s.quantity).1, ∃ s' ∈ s :: scans, e.Warns s'.item :=
        fun e he => ⟨s, List.mem_cons_self, c.add_warns s.item s.quantity e he⟩
      rcases hadd : c.add s.item s.quantity with ⟨log, f | c'⟩
      · rw [hadd] at hfirst
        simp only [scanAll, hadd]
        exact hfirst
      · rw [hadd] at hfirst
        simp only [scanAll, hadd]
        refine List.forall_mem_append.mpr ⟨hfirst, ?_⟩
        intro e he
        obtain ⟨s', hs', hwarns⟩ := ih c' e he
        exact ⟨s', List.mem_cons_of_mem s hs', hwarns⟩

theorem catalogFailure_logs {path : Text} {e : Catalog.Error}
    (h : Catalog.load opener path = .error e) (scans : List Scan) :
    ∀ entry ∈ (catalogFailure path e).log, Logs (some path) scans entry := by
  cases e with
  | file e =>
      cases e with
      | nulInPath => exact List.forall_mem_nil _
      | _ =>
          refine List.forall_mem_singleton.mpr (.plain (plain_cannotPrint ?_))
          exact Text.plain_append.mpr ⟨by decide, Text.plain_quoted path⟩
  | reading f => exact List.forall_mem_nil _
  | content f =>
      have hcolumn : ∀ column, f = .missingColumn column → Plain column := by
        rintro column rfl
        rcases Catalog.load_missing h with rfl | rfl <;> decide
      refine List.forall_mem_singleton.mpr (.catalog path rfl (.inr rfl) ?_)
      exact (Catalog.Flaw.report_controls (Files.baseName path) hcolumn).after (by decide)

theorem prices_logs (opener : Catalog.Opener) (s : Settings) (scans : List Scan) :
    ∀ entry ∈ (prices opener s).1, Logs s.catalog scans entry := by
  rw [prices]
  split
  next => exact List.forall_mem_nil _
  next path hpath =>
    split
    next => exact List.forall_mem_nil _
    next table _ =>
      refine List.forall_mem_singleton.mpr (.catalog path hpath (.inl rfl) ?_)
      apply (SameControls.refl (Files.baseName path)).after
      simp only [Text.plain_append]
      exact ⟨⟨by decide, Numeral.plain_natural _⟩, by decide⟩

/-- Receipts of a call log nothing: its line format was checked with its settings. -/
theorem Ready.receipt_log (h : Ready opener vars a s table) (b : Basket) :
    (Cart.receipt { Cart.ofSettings .standard s with basket := b } table).1 = [] := by
  have hcheck := (Settings.load_checked h.settings).1
  rw [← h.lineFormat .standard] at hcheck
  exact Cart.lines?_checked (c := { Cart.ofSettings .standard s with basket := b }) hcheck _

theorem Ready.logs (h : Ready opener vars a s table) :
    ∀ entry ∈ (printReceipt opener vars a).log, Logs s.catalog a.scans entry := by
  have hloaded := prices_logs opener s a.scans
  have hscans : ∀ entry ∈ (scanAll (.ofSettings .standard s) a.scans).1,
      Logs s.catalog a.scans entry := by
    intro entry hentry
    obtain ⟨scan, hscan, hwarns⟩ := scanAll_warns _ _ entry hentry
    exact .scan scan hscan hwarns
  rcases hfound : scanAll (.ofSettings .standard s) a.scans with ⟨log, found⟩
  rw [hfound] at hscans
  have hboth := List.forall_mem_append.mpr ⟨hloaded, hscans⟩
  rw [h.printReceipt_eq hfound]
  rcases found with (r | _) | c
  · refine List.forall_mem_append.mpr ⟨hboth, List.forall_mem_singleton.mpr (.plain ?_)⟩
    exact plain_cannotPrint r.cause.plain_wording
  · exact hboth
  · have hc : ∃ b, c = { Cart.ofSettings .standard s with basket := b } := by
      rcases scanAll_ofSettings_cases s a.scans with ⟨_, b, _, hscan⟩ | ⟨_, log', f, hscan⟩
      · cases hfound.symm.trans hscan
        exact ⟨b, rfl⟩
      · cases hfound.symm.trans hscan
    obtain ⟨b, rfl⟩ := hc
    rw [conclude, (deliver_ending_log _ _ _ _).2, h.receipt_log, List.append_nil]
    exact hboth

theorem printReceipt_logs (hs : Settings.load vars a.overrides = .ok s) :
    ∀ entry ∈ (printReceipt opener vars a).log, Logs s.catalog a.scans entry := by
  cases hp : (prices opener s).2 with
  | ok table => exact Ready.logs ⟨hs, hp⟩
  | error e =>
      rw [printReceipt_unloaded hs hp]
      cases hpath : s.catalog with
      | none =>
          simp only [prices, hpath] at hp
          cases hp
      | some path =>
          have hload : Catalog.load opener path = .error e := by
            cases hload : Catalog.load opener path with
            | error e' =>
                cases hp.symm.trans (prices_error hpath hload)
                rfl
            | ok table => cases hp.symm.trans (prices_ok hpath hload)
          exact catalogFailure_logs hload a.scans

end

theorem run_logs (opener : Catalog.Opener) (env : Environment) (file : Text) (words : List Text) :
    ∀ entry ∈ (run opener env file words).log, ∃ a, parse words = .ok (.receipt a) ∧
      Logs (catalogPath? env file words) a.scans entry := by
  cases hfile : env.withFile file with
  | error u =>
      rw [run_unsettable hfile]
      exact List.forall_mem_nil _
  | ok vars =>
      rcases hparse : parse words with e | _ | a
      · rw [run_unparsed hfile hparse]
        exact List.forall_mem_nil _
      · simp only [run, hfile, answer, hparse]
        exact List.forall_mem_nil _
      · rw [run_receipt hfile hparse]
        intro entry hentry
        refine ⟨a, rfl, ?_⟩
        cases hs : Settings.load vars a.overrides with
        | error errors =>
            rw [printReceipt_rejected hs] at hentry
            exact .settings _ (List.mem_singleton.mp hentry)
        | ok s =>
            simp only [catalogPath?, hfile, hparse, hs]
            exact printReceipt_logs hs entry hentry

end CommandLine

/-- Where the control characters of a log come from: in the run of a cart each record shows those of
an item that a step scans, as it is sanitized, and in a call also those in the name of the catalog's
file. So there are none where items have only the kinds that are spelled out and the file's name
has none. -/
theorem logged_controls (symbol : Text) (lineFormat : Option Text) (consume : Bool)
    (prices : PriceTable) (steps : List Register.Step) (opener : Catalog.Opener) (env : Environment)
    (file : Text) (words : List Text) :
    let events := (Register.fresh symbol lineFormat consume prices).run steps
    let o := CommandLine.run opener env file words
    let path? := CommandLine.catalogPath? env file words
    (∀ e ∈ events, ∀ entry ∈ e.reply.log,
      ∃ s ∈ steps, ∃ item, s.item? = some item ∧ entry.Warns item) ∧
    ((∀ s ∈ steps, ∀ item, s.item? = some item → Controls (· ∈ Log.escaped) item) →
      ∀ e ∈ events, ∀ entry ∈ e.reply.log, Plain entry.message) ∧
    (∀ entry ∈ o.log, ∃ a, CommandLine.parse words = .ok (.receipt a) ∧
      CommandLine.Logs path? a.scans entry) ∧
    ((∀ a, CommandLine.parse words = .ok (.receipt a) →
        ∀ s ∈ a.scans, Controls (· ∈ Log.escaped) s.item) →
      (∀ path, path? = some path → Plain (Files.baseName path)) →
      ∀ entry ∈ o.log, ¬ "Invalid settings:".toList <+: entry.message → Plain entry.message) := by
  intro events o path?
  have hrun := Register.run_warns symbol lineFormat consume prices steps
  have hcall := CommandLine.run_logs opener env file words
  refine ⟨hrun, ?_, hcall, ?_⟩
  · intro hitems e he entry hentry
    obtain ⟨s, hs, item, hitem, hwarns⟩ := hrun e he entry hentry
    exact hwarns.plain (hitems s hs item hitem)
  · intro hitems hpath entry hentry hother
    obtain ⟨a, ha, hlogs⟩ := hcall entry hentry
    cases hlogs with
    | settings count h =>
        rw [h] at hother
        exact absurd (CommandLine.invalidSettings_prefix count) hother
    | scan s hs h => exact h.plain (hitems a ha s hs)
    | catalog path h _ hsame => exact hsame.plain (hpath path h)
    | plain h => exact h

/-- A line feed in the name of a file begins a line of its own in the log, and an escape in the name
of an item gets there as it is. -/
theorem line_feed_logged :
    let file : Catalog.Opener := fun _ => .ok (Text.Utf8.encode "name,price\napple,5\n")
    let words := ["--prices", "a\nb.csv", "\x1b[2K:0"].map String.toList
    (CommandLine.run file [] [] words).log =
      [⟨.info, "Loaded 1 prices from a\nb.csv"⟩,
        ⟨.warning, "Rejected quantity 0 for new item \x1b[2K"⟩,
        CommandLine.cannotPrint "cannot add non-positive quantity for a new item"] ∧
      isControl '\n' = true ∧ isControl '\x1b' = true := by
  decide +kernel

end Checkout
