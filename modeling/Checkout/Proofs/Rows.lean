import Checkout.Proofs.CatalogFile
import Checkout.Proofs.Table
import Mathlib.Data.Nat.Find

namespace Checkout.Catalog

open Csv (Record)

def cellAt (i : Nat) (record : Record) : Text := (record[i]?).getD []

def Unpriced (i j : Nat) (record : Record) : Prop :=
  Text.strip (cellAt i record) ≠ [] ∧
    ∀ n, Numeral.read? (Text.strip (cellAt j record)) = some n → n < 0

def offers (i j : Nat) (records : List Record) : List (Text × Option Int) :=
  (records.map fun record => (Text.strip (cellAt i record), price? (cellAt j record))).filter
    (·.1 ≠ [])

/-- The column of a catalog with a title to look for: the last one with the text of the first header
cell that matches. -/
def InColumn (column : String) (header : Record) (i : Nat) : Prop :=
  ∃ title, header.find? (names column) = some title ∧ header[i]? = some title ∧
    ∀ k < header.length, header[k]? = some title → k ≤ i

/-- The table that records come to: each name once, in the order in which the names came first, at
the price of the last record with that name. -/
structure Tabulates (i j : Nat) (records : List Record) (table : PriceTable) : Prop where
  names : table.names =
    ((records.map fun record => Text.strip (cellAt i record)).filter (· ≠ [])).eraseDups
  last : ∀ before record after, records = before ++ record :: after →
    Text.strip (cellAt i record) ≠ [] →
    (∀ r ∈ after, Text.strip (cellAt i r) ≠ Text.strip (cellAt i record)) →
    ∃ n, Numeral.read? (Text.strip (cellAt j record)) = some n ∧ 0 ≤ n ∧
      table.get? (Text.strip (cellAt i record)) = some (some n)

section

variable {header : Record} {records : List Record} {i j : Nat}

/-- Of several cells with one title a record is read in the column of the last. -/
theorem cell_eq_cellAt {title : Text} (hi : header[i]? = some title)
    (hlast : ∀ k < header.length, header[k]? = some title → k ≤ i) (record : Record) :
    cell header title record = cellAt i record := by
  obtain ⟨hlt, htitle⟩ := List.getElem?_eq_some_iff.mp hi
  have hheader : header = header.take i ++ title :: header.drop (i + 1) := by
    rw [← htitle, ← List.drop_eq_getElem_cons hlt, List.take_append_drop]
  have hlength : (header.take i).length = i := List.length_take_of_le (Nat.le_of_lt hlt)
  have hafter : ∀ e ∈ (header.drop (i + 1)).zipIdx (i + 1), ¬ (e.1 == title) = true := by
    intro e he heq
    obtain ⟨k, hk⟩ := List.getElem?_of_mem (List.fst_mem_of_mem_zipIdx he)
    rw [List.getElem?_drop, beq_iff_eq.mp heq] at hk
    have hle := hlast _ (List.getElem?_eq_some_iff.mp hk).1 hk
    omega
  have hzip : header.zipIdx.filter (·.1 == title) =
      (header.take i).zipIdx.filter (·.1 == title) ++ [(title, i)] := by
    conv_lhs => rw [hheader]
    rw [List.zipIdx_append, List.filter_append, hlength, Nat.zero_add, List.zipIdx_cons,
      List.filter_cons_of_pos (by simp), List.filter_eq_nil_iff.mpr hafter]
  rw [cell, hzip, List.getLast?_concat]
  rfl

theorem InColumn.unique {column : String} {k : Nat} (hi : InColumn column header i)
    (hk : InColumn column header k) : i = k := by
  obtain ⟨title, hfind, hplace, hlast⟩ := hi
  obtain ⟨title', hfind', hplace', hlast'⟩ := hk
  cases hfind.symm.trans hfind'
  exact Nat.le_antisymm (hlast' i (List.getElem?_eq_some_iff.mp hplace).1 hplace)
    (hlast k (List.getElem?_eq_some_iff.mp hplace').1 hplace')

theorem InColumn.column {column : String} (h : InColumn column header i) :
    ∃ title, column? header column = some title ∧
      ∀ record, cell header title record = cellAt i record := by
  obtain ⟨title, hfind, hplace, hlast⟩ := h
  exact ⟨title, hfind, cell_eq_cellAt hplace hlast⟩

theorem column?_eq_none {column : String} :
    column? header column = none ↔ ∀ cell ∈ header, Catalog.names column cell = false := by
  simp [column?]

theorem exists_inColumn {column : String} {cell : Text} (hmem : cell ∈ header)
    (hcell : Catalog.names column cell = true) : ∃ i, InColumn column header i := by
  obtain ⟨title, hfind⟩ := Option.isSome_iff_exists.mp
    (List.find?_isSome.mpr ⟨cell, hmem, hcell⟩)
  obtain ⟨k, hk⟩ := List.getElem?_of_mem (List.mem_of_find?_eq_some hfind)
  refine ⟨Nat.findGreatest (fun k => header[k]? = some title) header.length, title, hfind, ?_, ?_⟩
  · exact Nat.findGreatest_spec (P := fun k => header[k]? = some title)
      (Nat.le_of_lt (List.getElem?_eq_some_iff.mp hk).1) hk
  · exact fun k hlt hk => Nat.le_findGreatest (Nat.le_of_lt hlt) hk

theorem price?_eq_none {t : Text} :
    price? t = none ↔ ∀ n, Numeral.read? (Text.strip t) = some n → n < 0 := by
  rw [price?]
  cases Numeral.read? (Text.strip t) with
  | none => simp
  | some n => by_cases hn : n < 0 <;> simp [hn]

theorem price?_eq_some {t : Text} {n : Int} :
    price? t = some n ↔ Numeral.read? (Text.strip t) = some n ∧ 0 ≤ n := by
  rw [price?]
  cases Numeral.read? (Text.strip t) with
  | none => simp
  | some m =>
      by_cases hm : m < 0
      · simp [hm]
        omega
      · simp [hm]
        omega

instance (records : List Record) : Decidable (Csv.Fits records) :=
  inferInstanceAs (Decidable (∀ record ∈ records, ∀ cell ∈ record, cell.length ≤ Csv.maxCell))

instance (i j : Nat) (record : Record) : Decidable (Unpriced i j record) :=
  decidable_of_iff (Text.strip (cellAt i record) ≠ [] ∧ price? (cellAt j record) = none) (by
    rw [price?_eq_none, Unpriced])

/-- Either all records with a name have a price, or one is the first that has none. -/
theorem unpriced_cases (i j : Nat) (records : List Record) :
    (∀ record ∈ records, ¬ Unpriced i j record) ∨
      ∃ before record after, records = before ++ record :: after ∧
        (∀ r ∈ before, ¬ Unpriced i j r) ∧ Unpriced i j record := by
  cases h : records.find? (Unpriced i j ·) with
  | none => exact .inl (by simpa using h)
  | some record =>
      obtain ⟨hrecord, before, after, hrecords, hbefore⟩ := List.find?_eq_some_iff_append.mp h
      exact .inr ⟨before, record, after, hrecords, by simpa using hbefore, by simpa using hrecord⟩

theorem offers_append (i j : Nat) (a b : List Record) :
    offers i j (a ++ b) = offers i j a ++ offers i j b := by
  rw [offers, List.map_append, List.filter_append]
  rfl

section

variable {c : Columns} (hname : ∀ record, cell header c.name record = cellAt i record)
  (hprice : ∀ record, cell header c.price record = cellAt j record)

include hname hprice

theorem rows_cons {record : Record} (h : ¬ Unpriced i j record) (past : List (Text × Option Int))
    (row : Nat) (records : List Record) :
    rows header c (Table.ofEntries past) row (record :: records) =
      rows header c (Table.ofEntries (past ++ offers i j [record])) (row + 1) records := by
  rw [rows, hname, hprice, offers, List.map_singleton]
  by_cases hblank : Text.strip (cellAt i record) = []
  · rw [if_pos hblank, List.filter_cons_of_neg (by simp [hblank]), List.filter_nil, List.append_nil]
  · have hsome : price? (cellAt j record) ≠ none := fun hn => h ⟨hblank, price?_eq_none.mp hn⟩
    obtain ⟨n, hn⟩ := Option.ne_none_iff_exists'.mp hsome
    rw [if_neg hblank, List.filter_cons_of_pos (by simp [hblank]), List.filter_nil,
      Table.ofEntries_concat, hn]

/-- Rows are taken into the table one by one as long as none of them lacks a price. -/
theorem rows_append {before : List Record} (h : ∀ record ∈ before, ¬ Unpriced i j record)
    (past : List (Text × Option Int)) (row : Nat) (after : List Record) :
    rows header c (Table.ofEntries past) row (before ++ after) =
      rows header c (Table.ofEntries (past ++ offers i j before)) (row + before.length) after := by
  induction before generalizing past row with
  | nil => rw [offers, List.map_nil, List.filter_nil, List.append_nil]; rfl
  | cons record before ih =>
      obtain ⟨hrecord, hbefore⟩ := List.forall_mem_cons.mp h
      rw [List.cons_append, rows_cons hname hprice hrecord, ih hbefore, List.append_assoc,
        ← offers_append, List.singleton_append, List.length_cons, Nat.add_assoc, Nat.add_comm 1]

theorem rows_unpriced {before : List Record} (h : ∀ r ∈ before, ¬ Unpriced i j r) {record : Record}
    (hrecord : Unpriced i j record) (after : List Record) (row : Nat) :
    rows header c [] row (before ++ record :: after) =
      .error (.badPrice (row + before.length)) := by
  have hrows := rows_append hname hprice h [] row (record :: after)
  rw [List.nil_append] at hrows
  refine hrows.trans ?_
  rw [rows, hname, hprice, if_neg hrecord.1, price?_eq_none.mpr hrecord.2]

theorem rows_priced (h : ∀ record ∈ records, ¬ Unpriced i j record) (row : Nat) :
    rows header c [] row records = .ok (Table.ofEntries (offers i j records)) := by
  have hrows := rows_append hname hprice h [] row []
  rw [List.append_nil, List.nil_append] at hrows
  exact hrows

end

theorem tabulates_ofEntries (h : ∀ record ∈ records, ¬ Unpriced i j record) :
    Tabulates i j records (Table.ofEntries (offers i j records)) := by
  constructor
  · rw [Table.names_ofEntries, offers, List.filter_map, List.map_map, List.filter_map]
    rfl
  · rintro before record after rfl hname hlast
    have hpriced : price? (cellAt j record) ≠ none := by
      intro hn
      exact h record (by simp) ⟨hname, price?_eq_none.mp hn⟩
    obtain ⟨n, hn⟩ := Option.ne_none_iff_exists'.mp hpriced
    have hone : offers i j [record] = [(Text.strip (cellAt i record), some n)] := by
      rw [offers, List.map_singleton, List.filter_cons_of_pos (by simp [hname]), hn,
        List.filter_nil]
    have hafter : ∀ e ∈ offers i j after, e.1 ≠ Text.strip (cellAt i record) := by
      intro e he
      obtain ⟨r, hr, rfl⟩ := List.mem_map.mp (List.mem_filter.mp he).1
      exact hlast r hr
    obtain ⟨hread, hpos⟩ := price?_eq_some.mp hn
    refine ⟨n, hread, hpos, ?_⟩
    rw [Table.get?_ofEntries, offers_append, ← List.singleton_append, offers_append, hone,
      List.singleton_append, Table.last?_append_cons hafter]

section

variable {more : List Record}

theorem ofRecords_unnamed (h : ∀ cell ∈ header, names "name" cell = false) :
    ofRecords header more = .error (.missingColumn "name") := by
  simp only [ofRecords, columns, column?_eq_none.mpr h]

theorem ofRecords_untitled (hi : InColumn "name" header i)
    (h : ∀ cell ∈ header, names "price" cell = false) :
    ofRecords header more = .error (.missingColumn "price") := by
  obtain ⟨title, htitle, _⟩ := hi.column
  simp only [ofRecords, columns, htitle, column?_eq_none.mpr h]

theorem ofRecords_eq_rows (more : List Record) (hi : InColumn "name" header i)
    (hj : InColumn "price" header j) :
    ∃ c, ofRecords header more = rows header c [] 2 (more.filter (· != [])) ∧
      (∀ record, cell header c.name record = cellAt i record) ∧
      ∀ record, cell header c.price record = cellAt j record := by
  obtain ⟨name, hname, hnames⟩ := hi.column
  obtain ⟨price, hprice, hprices⟩ := hj.column
  exact ⟨⟨name, price⟩, by simp only [ofRecords, columns, hname, hprice], hnames, hprices⟩

theorem ofRecords_priced (hi : InColumn "name" header i) (hj : InColumn "price" header j)
    (h : ∀ record ∈ more.filter (· != []), ¬ Unpriced i j record) :
    ofRecords header more = .ok (Table.ofEntries (offers i j (more.filter (· != [])))) := by
  obtain ⟨c, hrows, hname, hprice⟩ := ofRecords_eq_rows more hi hj
  rw [hrows, rows_priced hname hprice h]

theorem ofRecords_unpriced (hi : InColumn "name" header i) (hj : InColumn "price" header j)
    {before after : List Record} {record : Record}
    (hmore : more.filter (· != []) = before ++ record :: after)
    (hbefore : ∀ r ∈ before, ¬ Unpriced i j r) (hrecord : Unpriced i j record) :
    ofRecords header more = .error (.badPrice (before.length + 2)) := by
  obtain ⟨c, hrows, hname, hprice⟩ := ofRecords_eq_rows more hi hj
  rw [hrows, hmore, rows_unpriced hname hprice hbefore hrecord, Nat.add_comm]

theorem ofRecords_eq_badPrice (hi : InColumn "name" header i) (hj : InColumn "price" header j)
    (row : Nat) : ofRecords header more = .error (.badPrice row) ↔
      ∃ before record after, more.filter (· != []) = before ++ record :: after ∧
        row = before.length + 2 ∧ Unpriced i j record ∧ ∀ r ∈ before, ¬ Unpriced i j r := by
  constructor
  · intro h
    rcases unpriced_cases i j (more.filter (· != [])) with
      hpriced | ⟨before, record, after, hmore, hbefore, hrecord⟩
    · rw [ofRecords_priced hi hj hpriced] at h
      cases h
    · rw [ofRecords_unpriced hi hj hmore hbefore hrecord] at h
      cases h
      exact ⟨before, record, after, hmore, rfl, hrecord, hbefore⟩
  · rintro ⟨before, record, after, hmore, rfl, hrecord, hbefore⟩
    exact ofRecords_unpriced hi hj hmore hbefore hrecord

theorem ofRecords_ne_missing (hi : InColumn "name" header i) (hj : InColumn "price" header j)
    (column : Text) : ofRecords header more ≠ .error (.missingColumn column) := by
  rcases unpriced_cases i j (more.filter (· != [])) with
    hpriced | ⟨before, record, after, hmore, hbefore, hrecord⟩
  · rw [ofRecords_priced hi hj hpriced]
    nofun
  · rw [ofRecords_unpriced hi hj hmore hbefore hrecord]
    nofun

/-- The name is asked for before the price. -/
theorem ofRecords_eq_missing (header : Record) (more : List Record) (column : Text) :
    ofRecords header more = .error (.missingColumn column) ↔
      column = ("name" : Text) ∧ (∀ cell ∈ header, names "name" cell = false) ∨
      column = ("price" : Text) ∧ (∃ cell ∈ header, names "name" cell = true) ∧
        ∀ cell ∈ header, names "price" cell = false := by
  by_cases hname : ∃ cell ∈ header, names "name" cell = true
  · obtain ⟨cell, hmem, hcell⟩ := hname
    obtain ⟨i, hi⟩ := exists_inColumn hmem hcell
    have hnamed : ¬ ∀ cell ∈ header, names "name" cell = false := fun hno => by
      simp [hno cell hmem] at hcell
    by_cases hprice : ∃ cell ∈ header, names "price" cell = true
    · obtain ⟨cell', hmem', hcell'⟩ := hprice
      obtain ⟨j, hj⟩ := exists_inColumn hmem' hcell'
      have hpriced : ¬ ∀ cell ∈ header, names "price" cell = false := fun hno => by
        simp [hno cell' hmem'] at hcell'
      simp only [ofRecords_ne_missing hi hj, hnamed, hpriced, and_false, or_false]
    · have hno : ∀ cell ∈ header, names "price" cell = false := by simpa using hprice
      rw [ofRecords_untitled hi hno, Except.error.injEq, Flaw.missingColumn.injEq, eq_comm]
      exact ⟨fun h => .inr ⟨h, ⟨cell, hmem, hcell⟩, hno⟩, fun h => h.elim (absurd ·.2 hnamed) (·.1)⟩
  · have hno : ∀ cell ∈ header, names "name" cell = false := by simpa using hname
    rw [ofRecords_unnamed hno, Except.error.injEq, Flaw.missingColumn.injEq, eq_comm]
    exact ⟨fun h => .inl ⟨h, hno⟩, fun h => h.elim (·.1) (absurd ·.2.1 hname)⟩

end

theorem ofBytes_eq_ofRecords {bytes : List UInt8} {t : Text} (ht : Text.Utf8.Holds bytes t)
    {more : List Record} (hrecords : Csv.recordsOf t = header :: more)
    (hfits : Csv.Fits (header :: more)) :
    ofBytes bytes = (ofRecords header more).mapError .content := by
  rw [ofBytes, Csv.Sheet.ofBytes_whole ht, hrecords, Csv.Sheet.limit_of_fits hfits]
  simp only [ofSheet]
  cases ofRecords header more <;> rfl

end

/-- What becomes of a file is decided by its records. A title that is missing from the header is
told before anything else; then the first record with a name and no price is told by its number,
whatever follows it; and if there is none, the records come to a table. -/
theorem load_by_records {bytes : List UInt8} {t : Text} (ht : Text.Utf8.Holds bytes t)
    {header : Record} {more : List Record} (hrecords : Csv.recordsOf t = header :: more)
    (hfits : Csv.Fits (header :: more)) {opener : Opener} {path : Text}
    (hopen : opener path = .ok bytes) :
    let records := more.filter (· != [])
    let o := load opener path
    (∀ column, o = .error (.content (.missingColumn column)) ↔
      column = ("name" : Text) ∧ (∀ cell ∈ header, names "name" cell = false) ∨
      column = ("price" : Text) ∧ (∃ cell ∈ header, names "name" cell = true) ∧
        ∀ cell ∈ header, names "price" cell = false) ∧
    ((∃ cell ∈ header, names "name" cell = true) → (∃ cell ∈ header, names "price" cell = true) →
      ∃ i j, InColumn "name" header i ∧ InColumn "price" header j ∧
        (∀ row, o = .error (.content (.badPrice row)) ↔
          ∃ before record after, records = before ++ record :: after ∧
            row = before.length + 2 ∧ Unpriced i j record ∧ ∀ r ∈ before, ¬ Unpriced i j r) ∧
        ((∀ r ∈ records, ¬ Unpriced i j r) →
          ∃ table, o = .ok table ∧ Tabulates i j records table)) := by
  intro records o
  have hload : o = (ofRecords header more).mapError .content := by
    simp only [o, load, hopen]
    exact ofBytes_eq_ofRecords ht hrecords hfits
  have herror (f : Flaw) : o = .error (.content f) ↔ ofRecords header more = .error f := by
    rw [hload]
    cases ofRecords header more <;> simp [Except.mapError]
  refine ⟨fun column => (herror _).trans (ofRecords_eq_missing header more column), ?_⟩
  rintro ⟨cell, hmem, hcell⟩ ⟨cell', hmem', hcell'⟩
  obtain ⟨i, hi⟩ := exists_inColumn hmem hcell
  obtain ⟨j, hj⟩ := exists_inColumn hmem' hcell'
  refine ⟨i, j, hi, hj, fun row => (herror _).trans (ofRecords_eq_badPrice hi hj row), fun h => ?_⟩
  refine ⟨_, ?_, tabulates_ofEntries h⟩
  rw [hload, ofRecords_priced hi hj h]
  rfl

def rowsText : Text := "price,name,price\nten,tea,7\nx, ,oops\n\n1,cup\n-1\n"

def rowsFile : Opener := fun _ => .ok (Text.Utf8.encode rowsText)

theorem load_by_records_short :
    let records := [["ten", "tea", "7"], ["x", " ", "oops"], [], ["1", "cup"], ["-1"]].map
      (·.map String.toList)
    Csv.recordsOf rowsText = ["price", "name", "price"].map String.toList :: records ∧
      InColumn "name" (["price", "name", "price"].map String.toList) 1 ∧
      InColumn "price" (["price", "name", "price"].map String.toList) 2 ∧
      Unpriced 1 2 (["1", "cup"].map String.toList) ∧
      load rowsFile "p.csv" = .error (.content (.badPrice 4)) := by
  intro records
  have hrecords : Csv.recordsOf rowsText =
      ["price", "name", "price"].map String.toList :: records := by decide +kernel
  have hname : InColumn "name" (["price", "name", "price"].map String.toList) 1 :=
    ⟨"name".toList, by decide +kernel, by decide, by decide⟩
  have hprice : InColumn "price" (["price", "name", "price"].map String.toList) 2 :=
    ⟨"price".toList, by decide +kernel, by decide, by decide⟩
  have hunpriced : Unpriced 1 2 (["1", "cup"].map String.toList) := by decide +kernel
  refine ⟨hrecords, hname, hprice, hunpriced, ?_⟩
  have hholds : Text.Utf8.Holds (Text.Utf8.encode rowsText) rowsText := .inl ⟨rowsText, rfl, rfl⟩
  have hopen : rowsFile "p.csv" = .ok (Text.Utf8.encode rowsText) := rfl
  obtain ⟨_, hrows⟩ := load_by_records hholds hrecords (by decide +kernel) hopen
  obtain ⟨i, j, hi, hj, hbad, _⟩ := hrows (by decide +kernel) (by decide +kernel)
  cases hi.unique hname
  cases hj.unique hprice
  refine (hbad 4).mpr ⟨records.take 2, ["1", "cup"].map String.toList, [["-1".toList]], ?_, rfl,
    hunpriced, ?_⟩
  · decide +kernel
  · decide +kernel

end Checkout.Catalog
