import Checkout.Proofs.CatalogFile
import Checkout.Proofs.Records
import Mathlib.Data.List.DropRight

namespace Checkout.Csv

namespace Reader

def onto (r : Reader) (before : List Record) : Reader := { r with records := r.records ++ before }

section

variable (r : Reader) (before : List Record) (c : Char)

@[simp] theorem onto_cell : (r.onto before).cell = r.cell := rfl

@[simp] theorem onto_cells : (r.onto before).cells = r.cells := rfl

theorem ite_onto (p : Prop) [Decidable p] (a b : Reader) :
    (if p then a.onto before else b.onto before) = (if p then a else b).onto before :=
  (apply_ite (Reader.onto · before) p a b).symm

theorem endOr_onto (other : Reader) :
    (r.onto before).endOr c (other.onto before) = (r.endOr c other).onto before := by
  rw [endOr, endOr]
  cases lineEnd? c with
  | some mode => rfl
  | none => exact ite_onto before (c = ',') r.endCell other

theorem beginCell_onto : (r.onto before).beginCell c = (r.beginCell c).onto before := by
  rw [beginCell, beginCell, ← endOr_onto, ← ite_onto]
  rfl

/-- A character is read the same whatever has been read before the record it stands in. -/
theorem feed_onto : (r.onto before).feed c = (r.feed c).onto before := by
  have hmode : (r.onto before).mode = r.mode := rfl
  rw [feed, feed, hmode]
  cases r.mode with
  | record =>
      dsimp only
      cases lineEnd? c with
      | some mode => rfl
      | none => exact beginCell_onto r before c
  | afterReturn =>
      dsimp only
      rw [← ite_onto]
      cases lineEnd? c with
      | some mode => rfl
      | none => exact congrArg (ite _ _) (beginCell_onto r before c)
  | cell => exact beginCell_onto r before c
  | plain => exact endOr_onto r before c (r.push .plain c)
  | quoted => exact ite_onto before (c = '"') { r with mode := .quote } (r.push .quoted c)
  | quote =>
      dsimp only
      rw [← ite_onto, ← endOr_onto]
      rfl

theorem foldl_feed_onto (t : Text) : t.foldl feed (r.onto before) = (t.foldl feed r).onto before := by
  induction t generalizing r with
  | nil => rfl
  | cons c t ih => rw [List.foldl_cons, feed_onto, ih, List.foldl_cons]

theorem finish_onto : (r.onto before).finish = r.finish.onto before := by
  rcases r with ⟨mode, cell, cells, records⟩
  cases mode <;> rfl

end

end Reader

/-- How a text may go on after its first record: not at all, or with a line end after a cell. -/
inductive Follows : Mode → Text → Prop
  | nothing {m : Mode} (h : ¬ m.BeginsRecord) : Follows m []
  | lineEnd {m : Mode} (hm : m.EndsCell) {c : Char} {next : Mode}
      (hc : Reader.lineEnd? c = some next) (rest : Text) : Follows m (c :: rest)

inductive Leads (record : Record) (line rest : Text) : Prop
  | read {m : Mode} {last : Text} {before : List Text}
      (hread : Reader.read line = ⟨m, last, before, []⟩)
      (hrecord : (last.reverse :: before).reverse = record) (hrest : Follows m rest)

def Reader.beyond : Text → Reader
  | [] => .start
  | c :: rest => rest.foldl feed ⟨(lineEnd? c).getD .record, [], [], []⟩

section

variable {record : Record} {line rest : Text}

theorem Leads.read_cons {c : Char} (h : Leads record line (c :: rest)) :
    Reader.read (line ++ c :: rest) = (Reader.beyond (c :: rest)).onto [record] := by
  cases h with
  | read hread hrecord hrest =>
      cases hrest with
      | lineEnd hm hc =>
          rw [Reader.read, List.foldl_append, ← Reader.read, hread, List.foldl_cons,
            Reader.feed_lineEnd hm hc, hrecord, Reader.beyond, hc, ← Reader.foldl_feed_onto]
          rfl

theorem Leads.finish (h : Leads record line rest) :
    (Reader.read (line ++ rest)).finish.records = (Reader.beyond rest).finish.records ++ [record] := by
  cases rest with
  | nil =>
      cases h with
      | read hread hrecord hrest =>
          cases hrest with
          | nothing hm =>
              rw [List.append_nil, hread, Reader.finish_of_not_beginsRecord hm, hrecord]
              rfl
  | cons c rest =>
      rw [h.read_cons, Reader.finish_onto]
      rfl

/-- The records after the first depend on the rest of the text only. -/
theorem Leads.records (h : Leads record line rest) :
    recordsOf (line ++ rest) = record :: (Reader.beyond rest).finish.records.reverse := by
  rw [recordsOf, h.finish, List.reverse_append]
  rfl

end

theorem completeLines_prefix (t : Text) : completeLines t <+: t := by
  have hbody : (if t.getLast? = some '\r' then t.dropLast else t) <+: t := by
    split
    · exact List.dropLast_prefix t
    · exact List.prefix_rfl
  exact (List.rdropWhile_prefix _ _).trans hbody

theorem completeLines_append (line : Text) {rest : Text} (h : completeLines rest ≠ []) :
    completeLines (line ++ rest) = line ++ completeLines rest := by
  have hrest : rest ≠ [] := by
    rintro rfl
    exact h rfl
  have hlast : (line ++ rest).getLast? = rest.getLast? := by
    rw [List.getLast?_append, Option.or_of_isSome (List.getLast?_isSome.mpr hrest)]
  have hbody : (if (line ++ rest).getLast? = some '\r' then (line ++ rest).dropLast
        else line ++ rest) =
      line ++ (if rest.getLast? = some '\r' then rest.dropLast else rest) := by
    rw [hlast, List.dropLast_append_of_ne_nil hrest]
    exact (apply_ite (line ++ ·) _ _ _).symm
  rw [completeLines] at h
  rw [completeLines, hbody, completeLines, List.reverse_append, List.dropWhile_append, if_neg,
    List.reverse_append, List.reverse_reverse]
  rwa [List.isEmpty_iff, ← List.reverse_eq_nil_iff]

theorem Leads.cut {record : Record} {line rest : Text} (h : Leads record line rest)
    (hrest : completeLines rest ≠ []) : Leads record line (completeLines rest) := by
  obtain ⟨cut, hcut⟩ := completeLines_prefix rest
  cases h with
  | read hread hrecord hfollows =>
      refine .read hread hrecord ?_
      obtain ⟨c, lines, hlines⟩ := List.exists_cons_of_ne_nil hrest
      rw [hlines]
      cases hfollows with
      | nothing => exact absurd rfl hrest
      | lineEnd hm hc =>
          rw [hlines] at hcut
          cases hcut
          exact .lineEnd hm hc lines

namespace Sheet

def cons (record : Record) (s : Sheet) : Sheet := ⟨record :: s.records, s.fault⟩

theorem limit_cons {record : Record} (h : ∀ cell ∈ record, cell.length ≤ maxCell) (s : Sheet) :
    (s.cons record).limit = s.limit.cons record := by
  have hfits : record.any isTooLong = false := by simpa [isTooLong] using h
  rw [limit, limit, cons, List.any_cons, hfits, Bool.false_or]
  split
  · rw [List.takeWhile_cons_of_pos (by simp [hfits])]
    rfl
  · rfl

theorem limit_cons_long {record : Record} (h : ∃ cell ∈ record, maxCell < cell.length) (s : Sheet) :
    (s.cons record).limit = ⟨[], some .cellTooLong⟩ := by
  have hlong : record.any isTooLong = true := by simpa [isTooLong] using h
  rw [limit, cons, List.any_cons, hlong, Bool.true_or, if_pos rfl,
    List.takeWhile_cons_of_neg (by simp [hlong])]

theorem onto_records (r : Reader) (record : Record) (fault : Option Fault) :
    Sheet.mk (r.onto [record]).records.reverse fault =
      (Sheet.mk r.records.reverse fault).cons record := by
  rw [Reader.onto, List.reverse_append]
  rfl

end Sheet

def Sheet.beyond (rest : Text) (whole : Bool) : Sheet :=
  if whole then (Sheet.mk (Reader.beyond rest).finish.records.reverse none).limit
  else
    let reader := Reader.beyond (completeLines rest)
    let sheet := (Sheet.mk reader.records.reverse (some .undecodable)).limit
    if isTooLong reader.cell ∨ reader.cells.any isTooLong then
      { sheet with fault := some .cellTooLong }
    else sheet

theorem Leads.read_cut {record : Record} {line rest : Text} (h : Leads record line rest)
    (hrest : completeLines rest ≠ []) :
    Reader.read (completeLines (line ++ rest)) =
      (Reader.beyond (completeLines rest)).onto [record] := by
  obtain ⟨c, lines, hlines⟩ := List.exists_cons_of_ne_nil hrest
  have hcut := h.cut hrest
  rw [completeLines_append line hrest]
  rw [hlines] at hcut ⊢
  exact hcut.read_cons

theorem Leads.ofReading {record : Record} {line rest : Text} (h : Leads record line rest)
    {whole : Bool} (hend : whole = true ∨ completeLines rest ≠ [])
    (hfits : ∀ cell ∈ record, cell.length ≤ maxCell) :
    Sheet.ofReading ⟨line ++ rest, whole⟩ = (Sheet.beyond rest whole).cons record := by
  cases whole with
  | true =>
      rw [Sheet.ofReading, if_pos rfl, h.records, Sheet.beyond, if_pos rfl,
        ← Sheet.limit_cons hfits]
      rfl
  | false =>
      rw [Sheet.ofReading, if_neg Bool.false_ne_true, Sheet.beyond, if_neg Bool.false_ne_true]
      simp only [h.read_cut (hend.resolve_left Bool.false_ne_true), Sheet.onto_records,
        Sheet.limit_cons hfits, Reader.onto_cell, Reader.onto_cells]
      split <;> rfl

theorem Leads.ofReading_long {record : Record} {line rest : Text} (h : Leads record line rest)
    {whole : Bool} (hend : whole = true ∨ completeLines rest ≠ [])
    (hlong : ∃ cell ∈ record, maxCell < cell.length) :
    Sheet.ofReading ⟨line ++ rest, whole⟩ = ⟨[], some .cellTooLong⟩ := by
  cases whole with
  | true =>
      rw [Sheet.ofReading, if_pos rfl, h.records]
      exact Sheet.limit_cons_long hlong ⟨_, none⟩
  | false =>
      rw [Sheet.ofReading, if_neg Bool.false_ne_true]
      simp only [h.read_cut (hend.resolve_left Bool.false_ne_true), Sheet.onto_records,
        Sheet.limit_cons_long hlong]
      split <;> rfl

/-- Two files that are read alike but for the lines of their first records. Bytes that cannot be
decoded may cut both short at the same place, where the end of the first line has been read. -/
inductive Differ (first first' : Record) (bytes bytes' : List UInt8) : Prop
  | lines {line line' rest : Text} {whole : Bool} (h : Leads first line rest)
      (h' : Leads first' line' rest) (hbytes : Text.Utf8.read bytes = ⟨line ++ rest, whole⟩)
      (hbytes' : Text.Utf8.read bytes' = ⟨line' ++ rest, whole⟩)
      (hend : whole = true ∨ completeLines rest ≠ [])

theorem Differ.sheets {first first' : Record} {bytes bytes' : List UInt8}
    (h : Differ first first' bytes bytes') (hfits : ∀ cell ∈ first, cell.length ≤ maxCell)
    (hfits' : ∀ cell ∈ first', cell.length ≤ maxCell) :
    ∃ s : Sheet, Sheet.ofBytes bytes = s.cons first ∧ Sheet.ofBytes bytes' = s.cons first' := by
  cases h with
  | @lines line line' rest whole hline hline' hbytes hbytes' hend =>
      refine ⟨.beyond rest whole, ?_, ?_⟩
      · rw [Sheet.ofBytes, hbytes, hline.ofReading hend hfits]
      · rw [Sheet.ofBytes, hbytes', hline'.ofReading hend hfits']

theorem Differ.sheet_long {first first' : Record} {bytes bytes' : List UInt8}
    (h : Differ first first' bytes bytes') (hlong : ∃ cell ∈ first, maxCell < cell.length) :
    Sheet.ofBytes bytes = ⟨[], some .cellTooLong⟩ := by
  cases h with
  | lines hline _ hbytes _ hend =>
      rw [Sheet.ofBytes, hbytes, hline.ofReading_long hend hlong]

theorem exists_writesRecord {record : Record} (h : record ≠ []) : ∃ t, WritesRecord record t := by
  induction record with
  | nil => exact absurd rfl h
  | cons cell record ih =>
      cases record with
      | nil => exact ⟨_, .last .quoted⟩
      | cons next record =>
          obtain ⟨t, ht⟩ := ih (by simp)
          exact ⟨_, .next .quoted ht⟩

theorem WritesRecord.leads {record : Record} {line : Text} (h : WritesRecord record line)
    (hlen : 2 ≤ record.length) {first : Record} {old rest : Text} (hold : Leads first old rest) :
    Leads record line rest := by
  obtain ⟨m, last, before, hm, hread, hrecord⟩ := h.read hlen (m := .record) (.inl rfl) []
  refine .read hread hrecord ?_
  cases hold with
  | read _ _ hrest =>
      cases hrest with
      | nothing => exact .nothing hm.not_beginsRecord
      | lineEnd _ hc => exact .lineEnd hm hc _

namespace Reader

section

variable {r : Reader} {c : Char}

theorem endOr_of_none (hc : lineEnd? c = none) {other : Reader} (hmode : ¬ other.mode.BeginsRecord)
    (hrecords : other.records = r.records) :
    ¬ (r.endOr c other).mode.BeginsRecord ∧ (r.endOr c other).records = r.records := by
  simp only [endOr, hc]
  by_cases hcomma : c = ','
  · rw [if_pos hcomma]
    exact ⟨by simp [endCell, Mode.BeginsRecord], rfl⟩
  · rw [if_neg hcomma]
    exact ⟨hmode, hrecords⟩

theorem beginCell_of_none (hc : lineEnd? c = none) :
    ¬ (r.beginCell c).mode.BeginsRecord ∧ (r.beginCell c).records = r.records := by
  rw [beginCell]
  by_cases hquote : c = '"'
  · rw [if_pos hquote]
    exact endOr_of_none hc (by simp [Mode.BeginsRecord]) rfl
  · rw [if_neg hquote]
    exact endOr_of_none hc (by simp [push, Mode.BeginsRecord]) rfl

/-- A character is taken into the record that is being read, or it is the line end after a cell, or
one that stands for an empty record. -/
theorem feed_cases (r : Reader) (c : Char) :
    ((r.feed c).records = r.records ∧
      ((r.feed c).mode.BeginsRecord → r.mode.BeginsRecord ∧ (r.feed c).cells = r.cells)) ∨
    (r.mode.EndsCell ∧ ∃ next, lineEnd? c = some next) ∨
    (r.mode.BeginsRecord ∧ ∃ next, r.feed c = r.endRecord next) := by
  have htaken {s : Reader} {p : Prop} (h : ¬ s.mode.BeginsRecord ∧ s.records = r.records) :
      s.records = r.records ∧ (s.mode.BeginsRecord → p) := ⟨h.2, fun hm => absurd hm h.1⟩
  rw [feed]
  rcases r with ⟨mode, cell, cells, records⟩
  cases hc : lineEnd? c with
  | none =>
      left
      cases mode with
      | record | cell => exact htaken (beginCell_of_none hc)
      | afterReturn =>
          have hfeed : c ≠ '\n' := by
            rintro rfl
            cases hc
          dsimp only
          rw [if_neg hfeed]
          exact htaken (beginCell_of_none hc)
      | plain => exact htaken (endOr_of_none hc (by simp [push, Mode.BeginsRecord]) rfl)
      | quoted =>
          dsimp only
          split <;> exact htaken ⟨by simp [push, Mode.BeginsRecord], rfl⟩
      | quote =>
          dsimp only
          split
          · exact htaken ⟨by simp [push, Mode.BeginsRecord], rfl⟩
          · exact htaken (endOr_of_none hc (by simp [push, Mode.BeginsRecord]) rfl)
  | some next =>
      cases mode with
      | record => exact .inr (.inr ⟨.inl rfl, next, rfl⟩)
      | afterReturn =>
          dsimp only
          by_cases hfeed : c = '\n'
          · rw [if_pos hfeed]
            exact .inl ⟨rfl, fun _ => ⟨.inr rfl, rfl⟩⟩
          · rw [if_neg hfeed]
            exact .inr (.inr ⟨.inr rfl, next, rfl⟩)
      | cell => exact .inr (.inl ⟨.inl rfl, next, rfl⟩)
      | plain => exact .inr (.inl ⟨.inr (.inl rfl), next, rfl⟩)
      | quote => exact .inr (.inl ⟨.inr (.inr rfl), next, rfl⟩)
      | quoted =>
          left
          dsimp only
          split <;> exact htaken ⟨by simp [push, Mode.BeginsRecord], rfl⟩

theorem first_eq {before : Record} {t : Text} {first : Record} {more : List Record}
    (h : (t.foldl feed (r.onto [before])).finish.records.reverse = first :: more) :
    first = before := by
  rw [foldl_feed_onto, finish_onto, onto, List.reverse_append] at h
  cases h
  rfl

/-- The line of the first record of a text stops at the first line end after a cell. -/
theorem exists_line {t : Text} (hnone : r.records = []) (hbegun : r.mode.BeginsRecord → r.cells = [])
    {first : Record} {more : List Record} (hfirst : first ≠ [])
    (h : (t.foldl feed r).finish.records.reverse = first :: more) :
    ∃ line rest m last before, t = line ++ rest ∧ line.foldl feed r = ⟨m, last, before, []⟩ ∧
      (last.reverse :: before).reverse = first ∧ Follows m rest := by
  -- The reader is left open: what is taken into the first record only moves it on.
  induction t generalizing r with
  | nil =>
      rcases r with ⟨m, last, before, records⟩
      cases hnone
      by_cases hm : m.BeginsRecord
      · rw [List.foldl_nil, finish_of_beginsRecord hm] at h
        cases h
      · rw [List.foldl_nil, finish_of_not_beginsRecord hm] at h
        cases h
        exact ⟨[], [], m, last, before, rfl, rfl, rfl, .nothing hm⟩
  | cons c t ih =>
      rw [List.foldl_cons] at h
      rcases feed_cases r c with ⟨hrecords, hmode⟩ | ⟨hm, next, hc⟩ | ⟨hm, next, hfeed⟩
      · have hcells : (r.feed c).mode.BeginsRecord → (r.feed c).cells = [] := by
          intro hbegins
          obtain ⟨hbefore, hcells⟩ := hmode hbegins
          rw [hcells, hbegun hbefore]
        obtain ⟨line, rest, m, last, before, rfl, hline, hread⟩ :=
          ih (hrecords.trans hnone) hcells h
        exact ⟨c :: line, rest, m, last, before, rfl, hline, hread⟩
      · rcases r with ⟨m, last, before, records⟩
        cases hnone
        rw [feed_lineEnd hm hc] at h
        exact ⟨[], c :: t, m, last, before, rfl, rfl, (first_eq (r := ⟨next, [], [], []⟩) h).symm,
          .lineEnd hm hc t⟩
      · rw [hfeed, endRecord, hnone, hbegun hm] at h
        exact absurd (first_eq (r := ⟨next, [], [], []⟩) h) hfirst

end

end Reader

theorem exists_leads {t : Text} {first : Record} {more : List Record}
    (h : recordsOf t = first :: more) (hfirst : first ≠ []) :
    ∃ line rest, t = line ++ rest ∧ Leads first line rest := by
  obtain ⟨line, rest, m, last, before, ht, hread, hrecord, hrest⟩ :=
    Reader.exists_line (r := .start) rfl (fun _ => rfl) hfirst h
  exact ⟨line, rest, ht, .read hread hrecord hrest⟩

/-- Any record of several cells can be put in the place of the first record of a file. -/
theorem exists_differ {bytes : List UInt8} {t : Text} (ht : Text.Utf8.Holds bytes t)
    {first : Record} {more : List Record} (h : recordsOf t = first :: more) (hfirst : first ≠ [])
    {first' : Record} (hlen : 2 ≤ first'.length) :
    ∃ bytes', Differ first first' bytes bytes' := by
  obtain ⟨line, rest, rfl, hline⟩ := exists_leads h hfirst
  have hne : first' ≠ [] := by
    rintro rfl
    cases hlen
  obtain ⟨line', hwritten⟩ := exists_writesRecord hne
  have hholds : Text.Utf8.Holds (Text.Utf8.encode ('\uFEFF' :: (line' ++ rest))) (line' ++ rest) :=
    .inl ⟨_, rfl, rfl⟩
  exact ⟨_, .lines hline (hwritten.leads hlen hline) ((Text.Utf8.read_eq_whole _ _).mpr ht)
    ((Text.Utf8.read_eq_whole _ _).mpr hholds) (.inl rfl)⟩

end Checkout.Csv
