import Checkout.Proofs.Numeral
import Checkout.Proofs.Records
import Checkout.Proofs.Rows

namespace Checkout.Catalog

open Csv (Record)

def Only (p : Text → Bool) (header : Record) (i : Nat) : Prop :=
  (header[i]?).any p = true ∧ ∀ k < header.length, (header[k]?).any p = true → k = i

instance (p : Text → Bool) (header : Record) (i : Nat) : Decidable (Only p header i) :=
  inferInstanceAs (Decidable (_ ∧ _))

def entries (i j : Nat) (records : List Record) : List (Text × Option Int) :=
  (records.map fun record => (Text.strip (cellAt i record), Numeral.read? (cellAt j record))).filter
    (·.1 ≠ [])

/-- Each name once, in the order in which the names came first, with its last price. -/
def listing (i j : Nat) (records : List Record) : PriceTable :=
  ((entries i j records).map (·.1)).eraseDups.filterMap fun name =>
    (Table.last? (entries i j records) name).map (name, ·)

structure Lists (matching : String → Text → Bool) (header : Record) (records : List Record)
    (i j : Nat) : Prop where
  name : Only (matching "name") header i
  price : Only (matching "price") header j
  unmarked : ∀ first ∈ header.head?, first.head? ≠ some mark
  width : ∀ record ∈ records, record.length = header.length
  fits : Csv.Fits (header :: records)
  priced : ∀ record ∈ records, Text.strip (cellAt i record) ≠ [] →
    (Numeral.read? (cellAt j record)).any (0 ≤ ·) = true

def Writes (header : Record) (records : List Record) (bytes : List UInt8) : Prop :=
  ∃ t, Csv.WritesTable header records t ∧
    (bytes = Text.Utf8.encode t ∨ bytes = Text.Utf8.mark ++ Text.Utf8.encode t)

section

variable {header : Record} {records : List Record} {i j : Nat}

theorem Only.eq {p : Text → Bool} (h : Only p header i) {k : Nat} {cell : Text}
    (hk : header[k]? = some cell) (hp : p cell = true) : k = i := by
  obtain ⟨hlt, _⟩ := List.getElem?_eq_some_iff.mp hk
  exact h.2 k hlt (by rw [hk, Option.any_some, hp])

/-- The cells with the title of a column match like it, so the only one that matches is the last. -/
theorem Only.inColumn {column : String} (h : Only (names column) header i) :
    InColumn column header i := by
  obtain ⟨found, hi, hmatch⟩ := (Option.any_eq_true _ _).mp h.1
  obtain ⟨k, title, hfind, hk, hlast⟩ := exists_inColumn (List.mem_of_getElem? hi) hmatch
  cases h.eq hk (List.find?_some hfind)
  exact ⟨title, hfind, hk, hlast⟩

theorem price?_of_any {t : Text} (h : (Numeral.read? t).any (0 ≤ ·) = true) :
    price? t = Numeral.read? t ∧ (Numeral.read? t).isSome = true := by
  obtain ⟨n, hn, hpos⟩ := (Option.any_eq_true _ _).mp h
  have hle : ¬ n < 0 := by simpa using hpos
  rw [price?, Numeral.read?_strip hn]
  simp only [if_neg hle]
  rw [hn]
  exact ⟨rfl, rfl⟩

theorem offers_eq_entries (hpriced : ∀ record ∈ records, Text.strip (cellAt i record) ≠ [] →
      (Numeral.read? (cellAt j record)).any (0 ≤ ·) = true) :
    (∀ record ∈ records, ¬ Unpriced i j record) ∧ offers i j records = entries i j records := by
  constructor
  · rintro record hrecord ⟨hname, hunpriced⟩
    obtain ⟨hprice, hsome⟩ := price?_of_any (hpriced record hrecord hname)
    rw [← hprice, price?_eq_none.mpr hunpriced] at hsome
    cases hsome
  · rw [offers, entries, List.filter_map, List.filter_map]
    apply List.map_congr_left
    intro record hrecord
    obtain ⟨hmem, hname⟩ := List.mem_filter.mp hrecord
    rw [(price?_of_any (hpriced record hmem (by simpa using hname))).1]

theorem ofRecords_eq (h : Lists names header records i j) {more : List Record}
    (hmore : more.filter (· != []) = records) :
    ofRecords header more = .ok (listing i j records) := by
  obtain ⟨hpriced, hoffers⟩ := offers_eq_entries h.priced
  rw [← hmore] at hpriced
  rw [ofRecords_priced h.name.inColumn h.price.inColumn hpriced, hmore, hoffers, listing,
    ← Table.ofEntries_eq]

/-- No cell is both a name and a price, so there are two columns. -/
theorem Lists.two_le (h : Lists names header records i j) : 2 ≤ header.length := by
  obtain ⟨name, hi, hname⟩ := (Option.any_eq_true _ _).mp h.name.1
  obtain ⟨price, hj, hprice⟩ := (Option.any_eq_true _ _).mp h.price.1
  obtain ⟨hilt, _⟩ := List.getElem?_eq_some_iff.mp hi
  obtain ⟨hjlt, _⟩ := List.getElem?_eq_some_iff.mp hj
  have hne : i ≠ j := by
    rintro rfl
    cases hi.symm.trans hj
    rw [names, Text.isWord, beq_iff_eq] at hname hprice
    exact absurd (hname.symm.trans hprice) (by decide)
  omega

theorem Lists.length (h : Lists names header records i j) :
    ∀ record ∈ records, 2 ≤ record.length := by
  intro record hrecord
  rw [h.width record hrecord]
  exact h.two_le

theorem withoutMark_of_head? {t : Text} (h : t.head? ≠ some mark) :
    Text.Utf8.withoutMark t = t := by
  unfold Text.Utf8.withoutMark
  split
  · exact absurd rfl h
  · rfl

/-- The mark is dropped where it is written, and what is written does not begin with another. -/
theorem Lists.holds (h : Lists names header records i j) {t : Text}
    (ht : Csv.WritesTable header records t) {bytes : List UInt8}
    (hbytes : bytes = Text.Utf8.encode t ∨ bytes = Text.Utf8.mark ++ Text.Utf8.encode t) :
    Text.Utf8.Holds bytes t := by
  have hhead : t.head? ≠ some mark := ht.head?_ne h.two_le (by decide) h.unmarked
  rcases hbytes with rfl | rfl
  · exact .inl ⟨t, rfl, (withoutMark_of_head? hhead).symm⟩
  · refine .inl ⟨mark :: t, ?_, rfl⟩
    rw [Text.Utf8.encode_cons]
    rfl

theorem ofBytes_eq (h : Lists names header records i j) {bytes : List UInt8}
    (hbytes : Writes header records bytes) : ofBytes bytes = .ok (listing i j records) := by
  obtain ⟨t, ht, hbytes⟩ := hbytes
  obtain ⟨more, hrecords, hmore⟩ := ht.recordsOf h.two_le h.length
  have hfits : Csv.Fits (Csv.recordsOf t) := by
    rw [hrecords]
    intro record hrecord cell hcell
    rcases List.mem_cons.mp hrecord with rfl | hrecord
    · exact h.fits _ List.mem_cons_self cell hcell
    · refine h.fits record (List.mem_cons_of_mem _ ?_) cell hcell
      rw [← hmore]
      refine List.mem_filter.mpr ⟨hrecord, ?_⟩
      rw [bne_iff_ne]
      exact List.ne_nil_of_mem hcell
  rw [ofBytes_eq_ofRecords (h.holds ht hbytes) hrecords (hrecords ▸ hfits), ofRecords_eq h hmore]
  rfl

end

end Checkout.Catalog

namespace Checkout.CommandLine

open Catalog Csv

/-- However a table of prices is written to a file, its prices are loaded from it, and nothing but
their number is told. -/
theorem prices_written {header : Record} {records : List Record} {i j : Nat}
    (h : Lists names header records i j) {bytes : List UInt8} (hbytes : Writes header records bytes)
    {opener : Opener} {path : Text} (hopen : opener path = .ok bytes) {s : Settings}
    (hpath : s.catalog = some path) :
    load opener path = .ok (listing i j records) ∧
      prices opener s =
        ([⟨.info, "Loaded " ++ Numeral.natural (listing i j records).length ++ " prices from " ++
          Files.baseName path⟩], .ok (listing i j records)) := by
  have hload : load opener path = .ok (listing i j records) := by
    rw [load, hopen]
    exact ofBytes_eq h hbytes
  refine ⟨hload, ?_⟩
  simp only [prices, hpath, hload]
  rfl

def teaHeader : Record := ["Price", "note", " NAME "].map String.toList

def teaRecords : List Record :=
  [["5", "a,\"b\"\n", "tea "], ["", "", ""], ["0_7 ", "", "tea"]].map (·.map String.toList)

def teaTable : Text := "Price,\"note\", NAME \r\n5,\"a,\"\"b\"\"\n\",tea \r\n\n,,\r0_7 ,,\"tea\""

theorem writes_tea : WritesTable teaHeader teaRecords teaTable := by
  have hheader : WritesRecord teaHeader "Price,\"note\", NAME ".toList :=
    .next (t := "Price".toList) (u := "\"note\", NAME ".toList) (.plain (by decide))
      (.next (t := "\"note\"".toList) (u := " NAME ".toList) .quoted (.last (.plain (by decide))))
  have hfirst : WritesRecord (["5", "a,\"b\"\n", "tea "].map String.toList)
      "5,\"a,\"\"b\"\"\n\",tea ".toList :=
    .next (t := "5".toList) (u := "\"a,\"\"b\"\"\n\",tea ".toList) (.plain (by decide))
      (.next (t := "\"a,\"\"b\"\"\n\"".toList) (u := "tea ".toList) .quoted
        (.last (.plain (by decide))))
  have hblank : WritesRecord (["", "", ""].map String.toList) ",,".toList :=
    .next (t := []) (u := ",".toList) (.plain rfl)
      (.next (t := []) (u := []) (.plain rfl) (.last (.plain rfl)))
  have hlast : WritesRecord (["0_7 ", "", "tea"].map String.toList) "0_7 ,,\"tea\"".toList :=
    .next (t := "0_7 ".toList) (u := ",\"tea\"".toList) (.plain (by decide))
      (.next (t := []) (u := "\"tea\"".toList) (.plain rfl) (.last .quoted))
  exact .records hheader .crlf (.next hfirst .crlf (.blank .lf (.next hblank .cr (.last hlast))))

def teaFile : Opener := fun _ => .ok (Text.Utf8.mark ++ Text.Utf8.encode teaTable)

theorem prices_written_tea :
    Lists names teaHeader teaRecords 2 0 ∧
      Writes teaHeader teaRecords (Text.Utf8.mark ++ Text.Utf8.encode teaTable) ∧
      prices teaFile catalogSettings =
        ([⟨.info, "Loaded 1 prices from p.csv"⟩], .ok [("tea", some 7)]) := by
  have hlists : Lists names teaHeader teaRecords 2 0 :=
    ⟨by decide +kernel, by decide +kernel, by decide, by decide, by decide, by decide +kernel⟩
  have hwrites : Writes teaHeader teaRecords (Text.Utf8.mark ++ Text.Utf8.encode teaTable) :=
    ⟨teaTable, writes_tea, .inr rfl⟩
  have hopen : teaFile "p.csv" = .ok (Text.Utf8.mark ++ Text.Utf8.encode teaTable) := rfl
  have hpath : catalogSettings.catalog = some ("p.csv" : Text) := rfl
  have hlisting : listing 2 0 teaRecords = [("tea".toList, some 7)] := by decide +kernel
  refine ⟨hlists, hwrites, ?_⟩
  rw [(prices_written hlists hwrites hopen hpath).2, hlisting]
  decide +kernel

/-- White space around a header cell and the case of its letters are nothing, and no more. -/
def namesStripped (column : String) (cell : Text) : Bool := Text.isWord column (Text.strip cell)

def markedHeader : Record := ["price", "\uFEFFname", "name"].map String.toList

def markedRecord : Record := ["5", "tea", "cup"].map String.toList

def markedTable : Text := "price,\uFEFFname,name\n5,tea,cup\n"

/-- A byte order mark in front of a later header cell is dropped as well, so that cell may come
before the one that is a name without it. -/
theorem marked_name_listed :
    let file : Opener := fun _ => .ok (Text.Utf8.encode markedTable)
    Lists namesStripped markedHeader [markedRecord] 2 0 ∧
      Writes markedHeader [markedRecord] (Text.Utf8.encode markedTable) ∧
      load file "p.csv" = .ok [("tea", some 5)] ∧
      listing 2 0 [markedRecord] = [("cup".toList, some 5)] ∧
      load file "p.csv" ≠ .ok (listing 2 0 [markedRecord]) := by
  intro file
  have hheader : WritesRecord markedHeader "price,\uFEFFname,name".toList :=
    .next (t := "price".toList) (u := "\uFEFFname,name".toList) (.plain (by decide))
      (.next (t := "\uFEFFname".toList) (u := "name".toList) (.plain (by decide))
        (.last (.plain (by decide))))
  have hrecord : WritesRecord markedRecord "5,tea,cup".toList :=
    .next (t := "5".toList) (u := "tea,cup".toList) (.plain (by decide))
      (.next (t := "tea".toList) (u := "cup".toList) (.plain (by decide))
        (.last (.plain (by decide))))
  have hload : load file "p.csv" = .ok [("tea", some 5)] := by decide +kernel
  have hlisting : listing 2 0 [markedRecord] = [("cup".toList, some 5)] := by decide +kernel
  refine ⟨?_, ⟨markedTable, ?_, .inl rfl⟩, hload, hlisting, ?_⟩
  · exact ⟨by decide +kernel, by decide +kernel, by decide, by decide, by decide, by decide +kernel⟩
  · exact .records hheader .lf (.next hrecord .lf .nil)
  · rw [hload, hlisting]
    decide

end Checkout.CommandLine
