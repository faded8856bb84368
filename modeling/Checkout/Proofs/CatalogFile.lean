import Checkout.Proofs.Outcome
import Checkout.Proofs.Utf8

namespace Checkout.Csv

def Fits (records : List Record) : Prop :=
  ∀ record ∈ records, ∀ cell ∈ record, cell.length ≤ maxCell

def Readable (bytes : List UInt8) : Prop :=
  ∃ t, Text.Utf8.Holds bytes t ∧ Fits (recordsOf t)

theorem any_isTooLong (records : List Record) :
    (records.any (·.any isTooLong)) = true ↔ ¬ Fits records := by
  simp [Fits, isTooLong]

theorem Sheet.limit_of_fits {s : Sheet} (h : Fits s.records) : s.limit = s := by
  rw [Sheet.limit, if_neg]
  rw [any_isTooLong]
  exact not_not_intro h

theorem Sheet.limit_fault {s : Sheet} (h : ¬ Fits s.records) :
    s.limit.fault = some .cellTooLong := by
  rw [Sheet.limit, if_pos ((any_isTooLong _).mpr h)]

theorem Sheet.ofReading_cut (t : Text) : ∃ f, (Sheet.ofReading ⟨t, false⟩).fault = some f := by
  -- A cell that is too long only changes which fault it is.
  have hlimit (s : Sheet) (h : s.fault = some .undecodable) : ∃ f, s.limit.fault = some f := by
    by_cases hfits : Fits s.records
    · exact ⟨_, by rw [Sheet.limit_of_fits hfits, h]⟩
    · exact ⟨_, Sheet.limit_fault hfits⟩
  rw [Sheet.ofReading, if_neg (by simp)]
  simp only
  split
  · exact ⟨_, rfl⟩
  · exact hlimit _ rfl

theorem Sheet.ofBytes_whole {bytes : List UInt8} {t : Text} (h : Text.Utf8.Holds bytes t) :
    Sheet.ofBytes bytes = (Sheet.mk (recordsOf t) none).limit := by
  rw [Sheet.ofBytes, (Text.Utf8.read_eq_whole bytes t).mpr h, Sheet.ofReading, if_pos rfl]

theorem Sheet.ofBytes_fault (bytes : List UInt8) :
    (Sheet.ofBytes bytes).fault = none ↔ Readable bytes := by
  constructor
  · intro h
    rcases hread : Text.Utf8.read bytes with ⟨t, whole⟩
    cases whole with
    | false =>
        obtain ⟨f, hf⟩ := Sheet.ofReading_cut t
        rw [Sheet.ofBytes, hread, hf] at h
        cases h
    | true =>
        have hholds := (Text.Utf8.read_eq_whole bytes t).mp hread
        refine ⟨t, hholds, ?_⟩
        by_contra hn
        rw [Sheet.ofBytes_whole hholds, Sheet.limit_fault hn] at h
        cases h
  · rintro ⟨t, hholds, hfits⟩
    rw [Sheet.ofBytes_whole hholds, Sheet.limit_of_fits hfits]

end Checkout.Csv

namespace Checkout.Catalog

open Csv

def Flawless : List Record → Prop
  | [] => True
  | header :: records => ∃ table, ofRecords header records = .ok table

/-- A catalog either has a flaw, or comes to nothing because its reading stopped, or is loaded. -/
theorem ofBytes_cases (bytes : List UInt8) :
    (∃ flaw, ofBytes bytes = .error (.content flaw) ∧
      (Readable bytes ∨ ¬ Flawless (Sheet.ofBytes bytes).records)) ∨
    (∃ f, ofBytes bytes = .error (.reading f) ∧ ¬ Readable bytes ∧
      Flawless (Sheet.ofBytes bytes).records) ∨
    (∃ table, ofBytes bytes = .ok table ∧ Readable bytes) := by
  rw [ofBytes, ← Sheet.ofBytes_fault]
  rcases Sheet.ofBytes bytes with ⟨_ | ⟨header, records⟩, _ | f⟩
  · exact .inl ⟨_, rfl, .inl rfl⟩
  · exact .inr (.inl ⟨f, rfl, by simp, trivial⟩)
  · simp only [ofSheet]
    rcases h : ofRecords header records with flaw | table
    · exact .inl ⟨flaw, rfl, .inl trivial⟩
    · exact .inr (.inr ⟨table, rfl, trivial⟩)
  · simp only [ofSheet]
    rcases h : ofRecords header records with flaw | table
    · refine .inl ⟨flaw, rfl, .inr ?_⟩
      rintro ⟨table, htable⟩
      rw [h] at htable
      cases htable
    · exact .inr (.inl ⟨f, rfl, by simp, table, h⟩)

end Checkout.Catalog

namespace Checkout.CommandLine

section

variable {opener : Catalog.Opener} {vars : Environment} {a : Arguments} {s : Settings}
  {table : PriceTable}

theorem Ready.ending (h : Ready opener vars a s table) (f : Csv.Fault) :
    (printReceipt opener vars a).ending ≠ .crash (.reading f) := by
  rcases hscan : scanAll (.ofSettings .standard s) a.scans with ⟨log, e | c⟩
  · rw [h.printReceipt_eq hscan]
    cases e <;> simp [conclude]
  · rw [h.scanned hscan, deliver]
    cases ht : (c.receipt table).2.bind (printed? a.json) <;> simp [ht]

variable {path : Text}

theorem prices_error (hpath : s.catalog = some path) {e : Catalog.Error}
    (h : Catalog.load opener path = .error e) : (prices opener s).2 = .error e := by
  simp only [prices, hpath, h]

theorem prices_ok (hpath : s.catalog = some path)
    (h : Catalog.load opener path = .ok table) : (prices opener s).2 = .ok table := by
  simp only [prices, hpath, h]

end

/-- How a call fares whose catalog is a file. A flaw of what is listed is reported, and a file that
can be read to its end never ends a call otherwise. One that cannot be ends it without a word, but
for a flaw in what stands before. -/
theorem run_catalog_file {opener : Catalog.Opener} {env vars : Environment} {file : Text}
    (hvars : env.withFile file = .ok vars) {words : List Text} {a : Arguments}
    (hparse : parse words = .ok (.receipt a)) {s : Settings}
    (hsettings : Settings.load vars a.overrides = .ok s) {path : Text}
    (hpath : s.catalog = some path) {bytes : List UInt8} (hbytes : opener path = .ok bytes) :
    let o := run opener env file words
    (∃ flaw, Catalog.load opener path = .error (.content flaw) ∧
      o = ⟨.exit 2, [], [], [cannotPrint (flaw.report (Files.baseName path)).message]⟩ ∧
      (Csv.Readable bytes ∨ ¬ Catalog.Flawless (Csv.Sheet.ofBytes bytes).records)) ∨
    (∃ f, Catalog.load opener path = .error (.reading f) ∧ o = ⟨.crash (.reading f), [], [], []⟩ ∧
      ¬ Csv.Readable bytes ∧ Catalog.Flawless (Csv.Sheet.ofBytes bytes).records) ∨
    (∃ table, Catalog.load opener path = .ok table ∧ (∀ f, o.ending ≠ .crash (.reading f)) ∧
      Csv.Readable bytes) := by
  intro o
  have ho : o = printReceipt opener vars a := run_receipt hvars hparse opener
  have hload : Catalog.load opener path = Catalog.ofBytes bytes := by rw [Catalog.load, hbytes]
  rw [ho]
  rcases Catalog.ofBytes_cases bytes with ⟨flaw, he, hwhy⟩ | ⟨f, he, hwhy⟩ | ⟨table, he, hwhy⟩
  · refine .inl ⟨flaw, hload.trans he, ?_, hwhy⟩
    rw [printReceipt_unloaded hsettings (prices_error hpath (hload.trans he)), hpath]
    rfl
  · refine .inr (.inl ⟨f, hload.trans he, ?_, hwhy⟩)
    rw [printReceipt_unloaded hsettings (prices_error hpath (hload.trans he))]
    rfl
  · have hready : Ready opener vars a s table := ⟨hsettings, prices_ok hpath (hload.trans he)⟩
    exact .inr (.inr ⟨table, hload.trans he, hready.ending, hwhy⟩)

def catalogWords : List Text := ["--prices", "p.csv", "apple"].map String.toList

def catalogArguments : Arguments :=
  ⟨⟨none, none, some (.text "p.csv"), false⟩, false, [⟨"apple", 1⟩]⟩

def catalogSettings : Settings := { Settings.standard with catalog := some "p.csv" }

def priceless : Catalog.Opener := fun _ => .ok (Text.Utf8.encode "name\napple\n")

theorem run_catalog_file_priceless :
    parse catalogWords = .ok (.receipt catalogArguments) ∧
      Settings.load [] catalogArguments.overrides = .ok catalogSettings ∧
      run priceless [] [] catalogWords = ⟨.exit 2, [], [],
        [cannotPrint "price catalog is missing a required column: price (p.csv)"]⟩ := by
  have hparse : parse catalogWords = .ok (.receipt catalogArguments) := by decide +kernel
  have hsettings : Settings.load [] catalogArguments.overrides = .ok catalogSettings := by
    decide +kernel
  have hvars : Environment.withFile [] [] = .ok [] := by decide +kernel
  have hbytes : priceless "p.csv" = .ok (Text.Utf8.encode "name\napple\n") := rfl
  have hload : Catalog.load priceless "p.csv" = .error (.content (.missingColumn "price")) := by
    decide +kernel
  have hmessage : ((Catalog.Flaw.missingColumn "price").report (Files.baseName "p.csv")).message =
      "price catalog is missing a required column: price (p.csv)" := by decide +kernel
  refine ⟨hparse, hsettings, ?_⟩
  rcases run_catalog_file hvars hparse hsettings rfl hbytes
    with ⟨flaw, he, ho, _⟩ | ⟨f, he, _⟩ | ⟨table, he, _⟩
  · cases hload.symm.trans he
    rw [hmessage] at ho
    exact ho
  · cases hload.symm.trans he
  · cases hload.symm.trans he

/-- A file with a single byte that no text begins with ends a call without a word. -/
theorem undecodable_byte_uncaught :
    let file : Catalog.Opener := fun _ => .ok [0xFF]
    Catalog.load file "p.csv" = .error (.reading .undecodable) ∧
      run file [] [] catalogWords = ⟨.crash (.reading .undecodable), [], [], []⟩ := by
  constructor
  · decide +kernel
  · decide +kernel

end Checkout.CommandLine
