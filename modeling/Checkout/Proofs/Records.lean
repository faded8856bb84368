import Checkout.Csv
import Mathlib.Data.List.Basic

namespace Checkout.Csv

def Special (c : Char) : Prop := c = ',' ∨ c = '"' ∨ c = '\n' ∨ c = '\r'

instance (c : Char) : Decidable (Special c) := inferInstanceAs (Decidable (_ ∨ _))

def doubled (cell : Text) : Text := cell.flatMap fun c => if c = '"' then ['"', '"'] else [c]

/-- The ways to write a cell. Any cell may be quoted, and one with a special character has to be. -/
inductive WritesCell (cell : Text) : Text → Prop
  | plain (h : cell.any (Special ·) = false) : WritesCell cell cell
  | quoted : WritesCell cell ('"' :: doubled cell ++ ['"'])

inductive WritesRecord : Record → Text → Prop
  | last {cell t : Text} (h : WritesCell cell t) : WritesRecord [cell] t
  | next {cell t u : Text} {record : Record} (h : WritesCell cell t)
      (hrest : WritesRecord record u) : WritesRecord (cell :: record) (t ++ ',' :: u)

inductive LineEnd : Text → Prop
  | lf : LineEnd ['\n']
  | cr : LineEnd ['\r']
  | crlf : LineEnd ['\r', '\n']

inductive WritesRecords : List Record → Text → Prop
  | nil : WritesRecords [] []
  | blank {records : List Record} {e t : Text} (he : LineEnd e) (hrest : WritesRecords records t) :
      WritesRecords records (e ++ t)
  | last {record : Record} {t : Text} (h : WritesRecord record t) : WritesRecords [record] t
  | next {record : Record} {records : List Record} {t e u : Text} (h : WritesRecord record t)
      (he : LineEnd e) (hrest : WritesRecords records u) :
      WritesRecords (record :: records) (t ++ (e ++ u))

inductive WritesTable (header : Record) : List Record → Text → Prop
  | header {t : Text} (h : WritesRecord header t) : WritesTable header [] t
  | records {records : List Record} {t e u : Text} (h : WritesRecord header t) (he : LineEnd e)
      (hrest : WritesRecords records u) : WritesTable header records (t ++ (e ++ u))

namespace Mode

def EndsCell (m : Mode) : Prop := m = .cell ∨ m = .plain ∨ m = .quote

def BeginsRecord (m : Mode) : Prop := m = .record ∨ m = .afterReturn

theorem EndsCell.not_beginsRecord {m : Mode} (hm : m.EndsCell) : ¬ m.BeginsRecord := by
  rcases hm with rfl | rfl | rfl <;> simp [BeginsRecord]

end Mode

namespace Reader

variable {m : Mode} {cell : Text} {cells : List Text} {records : List Record}

theorem not_special_of_mem (h : cell.any (Special ·) = false) : ∀ c ∈ cell, ¬ Special c := by
  simpa using h

theorem lineEnd?_of_not_special {c : Char} (h : ¬ Special c) : lineEnd? c = none := by
  rw [Special] at h
  push Not at h
  rw [lineEnd?, if_neg h.2.2.1, if_neg h.2.2.2]

theorem endOr_of_not_special {c : Char} (h : ¬ Special c) (r other : Reader) :
    r.endOr c other = other := by
  rw [endOr, lineEnd?_of_not_special h]
  exact if_neg fun hc => h (.inl hc)

theorem foldl_feed_plain (acc : Text) (h : ∀ c ∈ cell, ¬ Special c) :
    cell.foldl feed ⟨.plain, acc, cells, records⟩ =
      ⟨.plain, cell.reverse ++ acc, cells, records⟩ := by
  induction cell generalizing acc with
  | nil => rfl
  | cons c cell ih =>
      obtain ⟨hc, hcell⟩ := List.forall_mem_cons.mp h
      have hstep : feed ⟨.plain, acc, cells, records⟩ c = ⟨.plain, c :: acc, cells, records⟩ :=
        endOr_of_not_special hc _ _
      rw [List.foldl_cons, hstep, ih (c :: acc) hcell, List.reverse_cons, List.append_assoc,
        List.singleton_append]

theorem foldl_feed_doubled (acc : Text) :
    (doubled cell).foldl feed ⟨.quoted, acc, cells, records⟩ =
      ⟨.quoted, cell.reverse ++ acc, cells, records⟩ := by
  induction cell generalizing acc with
  | nil => rfl
  | cons c cell ih =>
      have hstep : (if c = '"' then ['"', '"'] else [c]).foldl feed ⟨.quoted, acc, cells, records⟩ =
          ⟨.quoted, c :: acc, cells, records⟩ := by
        by_cases hc : c = '"'
        · rw [if_pos hc, hc]
          rfl
        · rw [if_neg hc]
          exact if_neg hc
      have hdoubled : doubled (c :: cell) = (if c = '"' then ['"', '"'] else [c]) ++ doubled cell :=
        List.flatMap_cons
      rw [hdoubled, List.foldl_append, hstep, ih, List.reverse_cons, List.append_assoc,
        List.singleton_append]

theorem foldl_feed_cell {t : Text} (h : WritesCell cell t) (cells : List Text)
    (records : List Record) :
    ∃ m : Mode, m.EndsCell ∧
      t.foldl feed ⟨.cell, [], cells, records⟩ = ⟨m, cell.reverse, cells, records⟩ := by
  cases h with
  | plain h =>
      cases cell with
      | nil => exact ⟨.cell, .inl rfl, rfl⟩
      | cons c cell =>
          obtain ⟨hc, hcell⟩ := List.forall_mem_cons.mp (not_special_of_mem h)
          have hquote : c ≠ '"' := fun he => hc (.inr (.inl he))
          have hstep : feed ⟨.cell, [], cells, records⟩ c = ⟨.plain, [c], cells, records⟩ :=
            (endOr_of_not_special hc _ _).trans (if_neg hquote)
          refine ⟨.plain, .inr (.inl rfl), ?_⟩
          rw [List.foldl_cons, hstep, foldl_feed_plain [c] hcell, List.reverse_cons]
  | quoted =>
      have hopen : feed ⟨.cell, [], cells, records⟩ '"' = ⟨.quoted, [], cells, records⟩ := rfl
      refine ⟨.quote, .inr (.inr rfl), ?_⟩
      rw [List.cons_append, List.foldl_cons, hopen, List.foldl_append, foldl_feed_doubled,
        List.append_nil]
      rfl

theorem feed_comma (hm : m.EndsCell) :
    feed ⟨m, cell, cells, records⟩ ',' = ⟨.cell, [], cell.reverse :: cells, records⟩ := by
  rcases hm with rfl | rfl | rfl <;> rfl

theorem feed_lineEnd (hm : m.EndsCell) {c : Char} {next : Mode} (hc : lineEnd? c = some next) :
    feed ⟨m, cell, cells, records⟩ c =
      ⟨next, [], [], (cell.reverse :: cells).reverse :: records⟩ := by
  have hquote : c ≠ '"' := by
    rintro rfl
    cases hc
  rcases hm with rfl | rfl | rfl <;>
    simp [feed, beginCell, endOr, hc, hquote, endCell, endRecord]

theorem finish_of_not_beginsRecord (hm : ¬ m.BeginsRecord) :
    (finish ⟨m, cell, cells, records⟩).records = (cell.reverse :: cells).reverse :: records := by
  cases m with
  | record => exact absurd (.inl rfl) hm
  | afterReturn => exact absurd (.inr rfl) hm
  | cell | plain | quoted | quote => rfl

theorem finish_of_beginsRecord (hm : m.BeginsRecord) :
    (finish ⟨m, cell, cells, records⟩).records = records := by
  rcases hm with rfl | rfl <;> rfl

theorem foldl_feed_record {record : Record} {t : Text} (h : WritesRecord record t)
    (cells : List Text) (records : List Record) :
    ∃ (m : Mode) (last : Text) (before : List Text), m.EndsCell ∧
      t.foldl feed ⟨.cell, [], cells, records⟩ = ⟨m, last, before, records⟩ ∧
      (last.reverse :: before).reverse = cells.reverse ++ record := by
  induction h generalizing cells with
  | @last cell t h =>
      obtain ⟨m, hm, hread⟩ := foldl_feed_cell h cells records
      exact ⟨m, _, cells, hm, hread, by simp⟩
  | @next cell t u record h _ ih =>
      obtain ⟨m, hm, hread⟩ := foldl_feed_cell h cells records
      obtain ⟨m', last, before, hm', hread', hlast⟩ := ih (cell :: cells)
      refine ⟨m', last, before, hm', ?_, ?_⟩
      · rw [List.foldl_append, hread, List.foldl_cons, feed_comma hm, List.reverse_reverse, hread']
      · rw [hlast, List.reverse_cons, List.append_assoc, List.singleton_append]

/-- What begins with no line end is read the same within a record that has just begun. -/
theorem foldl_feed_of_beginsRecord (hm : m.BeginsRecord) {c : Char} (hc : lineEnd? c = none)
    (t : Text) :
    (c :: t).foldl feed ⟨m, [], [], records⟩ = (c :: t).foldl feed ⟨.cell, [], [], records⟩ := by
  have hfeed : c ≠ '\n' := by
    rintro rfl
    cases hc
  have hstep : feed ⟨m, [], [], records⟩ c = feed ⟨.cell, [], [], records⟩ c := by
    rcases hm with rfl | rfl <;> simp [feed, hc, hfeed, beginCell, endOr, endCell, push]
  rw [List.foldl_cons, hstep, List.foldl_cons]

theorem feed_afterReturn :
    feed ⟨.afterReturn, [], [], records⟩ '\n' = ⟨.record, [], [], records⟩ := rfl

theorem foldl_feed_lineEnd (hm : m.EndsCell) {e : Text} (he : LineEnd e) (cell : Text)
    (cells : List Text) (records : List Record) :
    ∃ m' : Mode, m'.BeginsRecord ∧ e.foldl feed ⟨m, cell, cells, records⟩ =
      ⟨m', [], [], (cell.reverse :: cells).reverse :: records⟩ := by
  have hclose (c : Char) (next : Mode) (hc : lineEnd? c = some next) :
      feed ⟨m, cell, cells, records⟩ c =
        ⟨next, [], [], (cell.reverse :: cells).reverse :: records⟩ := feed_lineEnd hm hc
  cases he with
  | lf => exact ⟨.record, .inl rfl, hclose '\n' .record rfl⟩
  | cr => exact ⟨.afterReturn, .inr rfl, hclose '\r' .afterReturn rfl⟩
  | crlf =>
      refine ⟨.record, .inl rfl, ?_⟩
      rw [List.foldl_cons, hclose '\r' .afterReturn rfl]
      exact feed_afterReturn

theorem foldl_feed_blank (hm : m.BeginsRecord) {e : Text} (he : LineEnd e)
    (records : List Record) :
    ∃ (m' : Mode) (blank : List Record), m'.BeginsRecord ∧ (∀ record ∈ blank, record = []) ∧
      e.foldl feed ⟨m, [], [], records⟩ = ⟨m', [], [], blank ++ records⟩ := by
  cases he with
  | lf =>
      rcases hm with rfl | rfl
      · exact ⟨.record, [[]], .inl rfl, by simp, rfl⟩
      · exact ⟨.record, [], .inl rfl, nofun, rfl⟩
  | cr => rcases hm with rfl | rfl <;> exact ⟨.afterReturn, [[]], .inr rfl, by simp, rfl⟩
  | crlf => rcases hm with rfl | rfl <;> exact ⟨.record, [[]], .inl rfl, by simp, rfl⟩

end Reader

theorem WritesCell.begins {cell t : Text} (h : WritesCell cell t) {c : Char} {u : Text}
    (ht : t = c :: u) : Reader.lineEnd? c = none := by
  cases h with
  | plain h =>
      exact Reader.lineEnd?_of_not_special (Reader.not_special_of_mem h c (ht ▸ List.mem_cons_self))
  | quoted =>
      rw [List.cons_append] at ht
      cases ht
      rfl

theorem WritesCell.head?_ne {cell t : Text} (h : WritesCell cell t) {c : Char} (hc : ¬ Special c)
    (hcell : cell.head? ≠ some c) : t.head? ≠ some c := by
  cases h with
  | plain => exact hcell
  | quoted =>
      rintro he
      cases he
      exact hc (.inr (.inl rfl))

/-- What is written begins with a special character or as its first cell does. -/
theorem WritesRecord.head?_ne {record : Record} {t : Text} (h : WritesRecord record t) {c : Char}
    (hc : ¬ Special c) (hfirst : ∀ first ∈ record.head?, first.head? ≠ some c) :
    t.head? ≠ some c := by
  cases h with
  | last h => exact h.head?_ne hc (hfirst _ rfl)
  | @next cell t u _ h _ =>
      cases t with
      | nil =>
          rintro he
          cases he
          exact hc (.inl rfl)
      | cons d t => exact h.head?_ne hc (hfirst _ rfl)

/-- A record of several cells is no blank line, even where all of them are empty. -/
theorem WritesRecord.begins {record : Record} {t : Text} (h : WritesRecord record t)
    (hlen : 2 ≤ record.length) : ∃ c u, t = c :: u ∧ Reader.lineEnd? c = none := by
  cases h with
  | last => simp at hlen
  | @next cell t u record h _ =>
      cases t with
      | nil => exact ⟨',', u, rfl, rfl⟩
      | cons c t => exact ⟨c, _, rfl, h.begins rfl⟩

section

variable {m : Mode} {record : Record} {t : Text}

theorem WritesRecord.read (h : WritesRecord record t) (hlen : 2 ≤ record.length)
    (hm : m.BeginsRecord) (records : List Record) :
    ∃ (m' : Mode) (last : Text) (before : List Text), m'.EndsCell ∧
      t.foldl Reader.feed ⟨m, [], [], records⟩ = ⟨m', last, before, records⟩ ∧
      (last.reverse :: before).reverse = record := by
  obtain ⟨c, u, rfl, hc⟩ := h.begins hlen
  rw [Reader.foldl_feed_of_beginsRecord hm hc]
  exact Reader.foldl_feed_record h [] records

theorem WritesRecord.read_end (h : WritesRecord record t) (hlen : 2 ≤ record.length)
    (hm : m.BeginsRecord) (records : List Record) :
    (t.foldl Reader.feed ⟨m, [], [], records⟩).finish.records = record :: records := by
  obtain ⟨m', last, before, hm', hread, hrecord⟩ := h.read hlen hm records
  rw [hread, Reader.finish_of_not_beginsRecord hm'.not_beginsRecord, hrecord]

theorem WritesRecord.read_line (h : WritesRecord record t) (hlen : 2 ≤ record.length)
    (hm : m.BeginsRecord) {e : Text} (he : LineEnd e) (records : List Record) :
    ∃ m' : Mode, m'.BeginsRecord ∧
      (t ++ e).foldl Reader.feed ⟨m, [], [], records⟩ = ⟨m', [], [], record :: records⟩ := by
  obtain ⟨m', last, before, hm', hread, hrecord⟩ := h.read hlen hm records
  obtain ⟨m'', hm'', hend⟩ := Reader.foldl_feed_lineEnd hm' he last before records
  exact ⟨m'', hm'', by rw [List.foldl_append, hread, hend, hrecord]⟩

end

/-- Written records are read back, with empty records among them where blank lines stand. -/
theorem WritesRecords.read {records : List Record} {t : Text} (h : WritesRecords records t)
    (hlen : ∀ record ∈ records, 2 ≤ record.length) {m : Mode} (hm : m.BeginsRecord)
    (before : List Record) :
    ∃ more : List Record, more.filter (· != []) = records ∧
      (t.foldl Reader.feed ⟨m, [], [], before⟩).finish.records = more.reverse ++ before := by
  have hfilter {record : Record} (hlen : 2 ≤ record.length) (more : List Record) :
      (record :: more).filter (· != []) = record :: more.filter (· != []) := by
    apply List.filter_cons_of_pos
    cases record with
    | nil => simp at hlen
    | cons => rfl
  -- Where the records already read end is left open, for each line reads on from the one before.
  induction h generalizing m before with
  | nil => exact ⟨[], rfl, Reader.finish_of_beginsRecord hm⟩
  | blank he _ ih =>
      obtain ⟨m', blank, hm', hblank, hread⟩ := Reader.foldl_feed_blank hm he before
      obtain ⟨more, hmore, hrest⟩ := ih hlen hm' (blank ++ before)
      have hnone : blank.reverse.filter (· != []) = [] := by
        rw [List.filter_eq_nil_iff]
        intro record hrecord
        simp [hblank record (List.mem_reverse.mp hrecord)]
      refine ⟨blank.reverse ++ more, ?_, ?_⟩
      · rw [List.filter_append, hnone, hmore, List.nil_append]
      · rw [List.foldl_append, hread, hrest, List.reverse_append, List.reverse_reverse,
          List.append_assoc]
  | @last record t h =>
      have hrecord := hlen record List.mem_cons_self
      exact ⟨[record], hfilter hrecord [], h.read_end hrecord hm before⟩
  | @next record records t e u h he _ ih =>
      obtain ⟨hrecord, hrecords⟩ := List.forall_mem_cons.mp hlen
      obtain ⟨m', hm', hread⟩ := h.read_line hrecord hm he before
      obtain ⟨more, hmore, hrest⟩ := ih hrecords hm' (record :: before)
      refine ⟨record :: more, ?_, ?_⟩
      · rw [hfilter hrecord, hmore]
      · rw [← List.append_assoc, List.foldl_append, hread, hrest, List.reverse_cons,
          List.append_assoc, List.singleton_append]

theorem WritesTable.head?_ne {header : Record} {records : List Record} {t : Text}
    (h : WritesTable header records t) (hheader : 2 ≤ header.length) {c : Char} (hc : ¬ Special c)
    (hfirst : ∀ first ∈ header.head?, first.head? ≠ some c) : t.head? ≠ some c := by
  cases h with
  | header h => exact h.head?_ne hc hfirst
  | records h _ _ =>
      obtain ⟨d, u, rfl, _⟩ := h.begins hheader
      exact h.head?_ne hc hfirst

/-- However a table is written, it is read back, with nothing but empty records besides. -/
theorem WritesTable.recordsOf {header : Record} {records : List Record} {t : Text}
    (h : WritesTable header records t) (hheader : 2 ≤ header.length)
    (hlen : ∀ record ∈ records, 2 ≤ record.length) :
    ∃ more : List Record, recordsOf t = header :: more ∧ more.filter (· != []) = records := by
  cases h with
  | header h =>
      refine ⟨[], ?_, rfl⟩
      rw [Csv.recordsOf, Reader.read, Reader.start, h.read_end hheader (.inl rfl) []]
      rfl
  | records h he hrest =>
      obtain ⟨m, hm, hread⟩ := h.read_line hheader (m := .record) (.inl rfl) he []
      obtain ⟨more, hmore, hrest⟩ := hrest.read hlen hm [header]
      refine ⟨more, ?_, hmore⟩
      rw [Csv.recordsOf, Reader.read, Reader.start, ← List.append_assoc, List.foldl_append, hread,
        hrest, List.reverse_append, List.reverse_reverse]
      rfl

end Checkout.Csv
