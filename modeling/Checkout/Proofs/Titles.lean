import Checkout.Proofs.FirstLine
import Checkout.Proofs.PriceList

namespace Checkout.Catalog

open Csv (Record Sheet)

def isDecoration (c : Char) : Bool := Text.isBlank c || c == mark

/-- A title in any case, with decorations in any mix in front of it and white space after it. -/
inductive Titled (column : String) (front : Text) : Text → Prop
  | title (title back : Text) (hfront : ∀ c ∈ front, isDecoration c = true)
      (htitle : Text.isWord column title = true) (hback : ∀ c ∈ back, Text.isBlank c = true) :
      Titled column front (front ++ title ++ back)

def letters (cell : Text) : Text := cell.filter (!isDecoration ·)

structure OnlyTitle (column : String) (header : Record) (i : Nat) (front : Text) : Prop where
  cell : ∃ cell, header[i]? = some cell ∧ Titled column front cell
  only : ∀ k cell front', header[k]? = some cell → Titled column front' cell → k = i

def Orderly (front : Text) : Prop :=
  ∃ blanks marks, front = blanks ++ marks ∧ (∀ c ∈ blanks, Text.isBlank c = true) ∧
    ∀ c ∈ marks, c = mark

def plain (header : Record) (i j : Nat) : Record := (header.set i "name").set j "price"

structure Lettered (column : String) : Prop where
  ne : column.toList ≠ []
  small : Text.isWord column column.toList = true
  solid : column.toList.any isDecoration = false

theorem lettered_name : Lettered "name" := ⟨by decide, by decide, by decide⟩

theorem lettered_price : Lettered "price" := ⟨by decide, by decide, by decide⟩

theorem toLower_of_decoration {c : Char} (h : isDecoration c = true) : c.toLower = c := by
  rcases (Bool.or_eq_true _ _).mp h with hblank | hmark
  · exact Text.toLower_of_blank hblank
  · obtain rfl : c = mark := beq_iff_eq.mp hmark
    rfl

section

variable {column : String} {front title cell : Text}

theorem Lettered.not_decoration (h : Lettered column) (ht : Text.isWord column title = true) :
    ∀ c ∈ title, isDecoration c = false :=
  Text.not_of_isWord (fun _ => toLower_of_decoration) h.solid ht

theorem length_of_isWord (ht : Text.isWord column title = true) :
    title.length = column.toList.length := by
  rw [← beq_iff_eq.mp ht, List.length_map]

theorem Titled.letters (hc : Lettered column) (h : Titled column front cell) :
    Text.isWord column (letters cell) = true := by
  cases h with
  | title title back hfront htitle hback =>
      have hfront : front.filter (!isDecoration ·) = [] := by
        rw [List.filter_eq_nil_iff]
        intro c hc
        rw [hfront c hc]
        decide
      have hback : back.filter (!isDecoration ·) = [] := by
        rw [List.filter_eq_nil_iff]
        intro c hc
        rw [isDecoration, hback c hc, Bool.true_or]
        decide
      have htitle : title.filter (!isDecoration ·) = title := by
        rw [List.filter_eq_self]
        intro c hmem
        rw [hc.not_decoration htitle c hmem]
        rfl
      rw [letters, List.filter_append, List.filter_append, hfront, hback, htitle, List.nil_append,
        List.append_nil]
      assumption

theorem Titled.column_eq {column' : String} {front' : Text} (hc : Lettered column)
    (hc' : Lettered column') (h : Titled column front cell) (h' : Titled column' front' cell) :
    column = column' := by
  rw [← String.toList_inj, ← beq_iff_eq.mp (h.letters hc), ← beq_iff_eq.mp (h'.letters hc')]

theorem orderly_iff : Orderly front ↔ (front.dropWhile Text.isBlank).dropWhile (· == mark) = [] := by
  constructor
  · rintro ⟨blanks, marks, rfl, hblanks, hmarks⟩
    rw [List.dropWhile_append_of_pos hblanks, List.dropWhile_eq_nil_iff]
    intro c hc
    exact beq_iff_eq.mpr (hmarks c ((List.dropWhile_sublist _).mem hc))
  · intro h
    refine ⟨front.takeWhile Text.isBlank, front.dropWhile Text.isBlank,
      List.takeWhile_append_dropWhile.symm, fun c => List.mem_takeWhile_imp, fun c hc => ?_⟩
    exact beq_iff_eq.mp (List.dropWhile_eq_nil_iff.mp h c hc)

/-- White space in front is dropped, then byte order marks, and what is left stays before the
title. -/
theorem Titled.names_iff (hc : Lettered column) (h : Titled column front cell) :
    names column cell = true ↔ Orderly front := by
  cases h with
  | title title back hfront htitle hback =>
      have hsolid : ∀ c ∈ title, isDecoration c = false := hc.not_decoration htitle
      have hblank : ∀ c ∈ title, Text.isBlank c = false :=
        fun c hmem => (Bool.or_eq_false_iff.mp (hsolid c hmem)).1
      have hmark : ∀ c ∈ title, (c == mark) = false :=
        fun c hmem => (Bool.or_eq_false_iff.mp (hsolid c hmem)).2
      have hne : title ≠ [] := by
        rintro rfl
        exact hc.ne (List.length_eq_zero_iff.mp (length_of_isWord htitle).symm)
      have hbare : Text.Bare Text.isBlank (front.dropWhile Text.isBlank ++ title) := by
        constructor
        · intro c hhead
          rw [List.head?_append, Option.or_eq_some_iff] at hhead
          rcases hhead with hhead | ⟨_, hhead⟩
          · have hnot := List.head?_dropWhile_not Text.isBlank front
            rwa [hhead] at hnot
          · exact hblank c (List.mem_of_head? hhead)
        · intro c hlast
          rw [List.getLast?_append_of_ne_nil _ hne] at hlast
          exact hblank c (List.mem_of_getLast? hlast)
      have hstrip : Text.strip (front ++ title ++ back) =
          front.dropWhile Text.isBlank ++ title := by
        have hblanks : ∀ c ∈ front.takeWhile Text.isBlank, Text.isBlank c = true :=
          fun c => List.mem_takeWhile_imp
        have htrim := Text.trim_append hblanks hbare hback
        rwa [← List.append_assoc, List.takeWhile_append_dropWhile] at htrim
      have hmarks : (front.dropWhile Text.isBlank ++ title).dropWhile (· == mark) =
          (front.dropWhile Text.isBlank).dropWhile (· == mark) ++ title :=
        Text.dropWhile_append_left _ fun c hhead => hmark c (List.mem_of_head? hhead)
      rw [names, hstrip, hmarks, orderly_iff]
      constructor
      · intro hword
        have hlength := length_of_isWord hword
        rw [← length_of_isWord htitle, List.length_append] at hlength
        exact List.length_eq_zero_iff.mp (by omega)
      · intro hnone
        rwa [hnone, List.nil_append]

theorem exists_titled (h : names column cell = true) : ∃ front, Titled column front cell := by
  obtain ⟨front, back, hcell, hfront, _, hback⟩ := Text.trim_spec Text.isBlank cell
  rw [names, Text.strip] at h
  have hmarks : ∀ c ∈ front ++ (Text.trim Text.isBlank cell).takeWhile (· == mark),
      isDecoration c = true := by
    intro c hc
    rw [isDecoration, Bool.or_eq_true]
    rcases List.mem_append.mp hc with hc | hc
    · exact .inl (hfront c hc)
    · have hmark := List.mem_takeWhile_imp hc
      exact .inr hmark
  have htitled := Titled.title _ back hmarks h hback
  rw [List.append_assoc front, List.takeWhile_append_dropWhile, ← hcell] at htitled
  exact ⟨_, htitled⟩

theorem titled_self (hc : Lettered column) : Titled column [] column.toList := by
  have h : Titled column [] ([] ++ column.toList ++ []) := .title _ _ nofun hc.small nofun
  rwa [List.nil_append, List.append_nil] at h

section

variable {header : Record} {i j : Nat}

theorem OnlyTitle.of_letters (hc : Lettered column) (hcell : header[i]? = some cell)
    (h : Titled column front cell) (honly : Only (Text.isWord column <| letters ·) header i) :
    OnlyTitle column header i front :=
  ⟨⟨cell, hcell, h⟩, fun _ _ _ hk hother => honly.eq hk (hother.letters hc)⟩

theorem OnlyTitle.inColumn (hc : Lettered column) (h : OnlyTitle column header i front)
    (ho : Orderly front) : InColumn column header i := by
  obtain ⟨cell, hcell, htitled⟩ := h.cell
  refine Only.inColumn ⟨?_, ?_⟩
  · rw [hcell, Option.any_some, htitled.names_iff hc]
    exact ho
  · intro k _ hk
    obtain ⟨other, hother, hnames⟩ := (Option.any_eq_true _ _).mp hk
    obtain ⟨front', htitled'⟩ := exists_titled hnames
    exact h.only k other front' hother htitled'

/-- Decorations out of order hide the only title from the search. -/
theorem OnlyTitle.unnamed (hc : Lettered column) (h : OnlyTitle column header i front)
    (ho : ¬ Orderly front) : ∀ cell ∈ header, names column cell = false := by
  intro cell hmem
  by_contra hnames
  rw [Bool.not_eq_false] at hnames
  obtain ⟨k, hk⟩ := List.getElem?_of_mem hmem
  obtain ⟨front', htitled'⟩ := exists_titled hnames
  obtain rfl : k = i := h.only k cell front' hk htitled'
  obtain ⟨cell', hcell', htitled⟩ := h.cell
  cases hk.symm.trans hcell'
  exact ho ((htitled.names_iff hc).mp hnames)

theorem OnlyTitle.set_self (hc : Lettered column) (h : OnlyTitle column header i front) :
    OnlyTitle column (header.set i column) i [] := by
  obtain ⟨cell, hcell, _⟩ := h.cell
  obtain ⟨hlt, _⟩ := List.getElem?_eq_some_iff.mp hcell
  refine ⟨⟨column, List.getElem?_set_self hlt, titled_self hc⟩, ?_⟩
  intro k other front' hk hother
  by_contra hne
  rw [List.getElem?_set_ne (Ne.symm hne)] at hk
  exact hne (h.only k other front' hk hother)

theorem OnlyTitle.set_other (h : OnlyTitle column header i front) (hne : i ≠ j)
    (hcell : ∀ front, ¬ Titled column front cell) : OnlyTitle column (header.set j cell) i front := by
  obtain ⟨found, hfound, htitled⟩ := h.cell
  refine ⟨⟨found, ?_, htitled⟩, ?_⟩
  · rw [List.getElem?_set_ne hne.symm]
    exact hfound
  · intro k other front' hk hother
    by_cases hkj : k = j
    · rw [hkj] at hk
      have hlt : j < header.length := by simpa using (List.getElem?_eq_some_iff.mp hk).1
      rw [List.getElem?_set_self hlt] at hk
      cases hk
      exact absurd hother (hcell front')
    · rw [List.getElem?_set_ne (Ne.symm hkj)] at hk
      exact h.only k other front' hk hother

end

end

section

variable {header header' : Record} {i j : Nat} {front front' : Text}

theorem ne_of_titles (hi : OnlyTitle "name" header i front)
    (hj : OnlyTitle "price" header j front') : i ≠ j := by
  rintro rfl
  obtain ⟨cell, hcell, hname⟩ := hi.cell
  obtain ⟨cell', hcell', hprice⟩ := hj.cell
  cases hcell.symm.trans hcell'
  exact absurd (hname.column_eq lettered_name lettered_price hprice) (by decide)

theorem two_le_of_titles (hi : OnlyTitle "name" header i front)
    (hj : OnlyTitle "price" header j front') : 2 ≤ header.length := by
  have hne : i ≠ j := ne_of_titles hi hj
  obtain ⟨_, hcell, _⟩ := hi.cell
  obtain ⟨_, hcell', _⟩ := hj.cell
  obtain ⟨hlt, _⟩ := List.getElem?_eq_some_iff.mp hcell
  obtain ⟨hlt', _⟩ := List.getElem?_eq_some_iff.mp hcell'
  omega

theorem plain_titles (hi : OnlyTitle "name" header i front)
    (hj : OnlyTitle "price" header j front') :
    OnlyTitle "name" (plain header i j) i [] ∧ OnlyTitle "price" (plain header i j) j [] := by
  have hne : i ≠ j := ne_of_titles hi hj
  constructor
  · refine (hi.set_self lettered_name).set_other hne ?_
    intro f hname
    have hprice : Titled "price" [] "price".toList := titled_self lettered_price
    exact absurd (hname.column_eq lettered_name lettered_price hprice) (by decide)
  · refine (hj.set_other hne.symm ?_).set_self lettered_price
    intro f hprice
    have hname : Titled "name" [] "name".toList := titled_self lettered_name
    exact absurd (hname.column_eq lettered_name lettered_price hprice) (by decide)

theorem plain_fits (hfits : ∀ cell ∈ header, cell.length ≤ Csv.maxCell) (i j : Nat) :
    ∀ cell ∈ plain header i j, cell.length ≤ Csv.maxCell := by
  intro cell hmem
  rcases List.mem_or_eq_of_mem_set hmem with hmem | rfl
  · rcases List.mem_or_eq_of_mem_set hmem with hmem | rfl
    · exact hfits cell hmem
    · decide
  · decide

/-- What records come to depends on the places of the columns only. -/
theorem ofRecords_congr (hi : InColumn "name" header i) (hj : InColumn "price" header j)
    (hi' : InColumn "name" header' i) (hj' : InColumn "price" header' j) (records : List Record) :
    ofRecords header records = ofRecords header' records := by
  rcases unpriced_cases i j (records.filter (· != [])) with
    hpriced | ⟨before, record, after, hrecords, hbefore, hrecord⟩
  · rw [ofRecords_priced hi hj hpriced, ofRecords_priced hi' hj' hpriced]
  · rw [ofRecords_unpriced hi hj hrecords hbefore hrecord,
      ofRecords_unpriced hi' hj' hrecords hbefore hrecord]

theorem columns_iff (hi : OnlyTitle "name" header i front)
    (hj : OnlyTitle "price" header j front') :
    (∃ c, columns header = .ok c ∧ header[i]? = some c.name ∧ header[j]? = some c.price) ↔
      Orderly front ∧ Orderly front' := by
  constructor
  · rintro ⟨c, hcolumns, _⟩
    constructor
    · by_contra ho
      have hnone := column?_eq_none.mpr (hi.unnamed lettered_name ho)
      simp only [columns, hnone] at hcolumns
      cases hcolumns
    · by_contra ho
      have hnone := column?_eq_none.mpr (hj.unnamed lettered_price ho)
      simp only [columns, hnone] at hcolumns
      cases hname : column? header "name" <;> simp only [hname] at hcolumns <;> cases hcolumns
  · rintro ⟨ho, ho'⟩
    obtain ⟨name, hname, hiname, _⟩ := hi.inColumn lettered_name ho
    obtain ⟨price, hprice, hjprice, _⟩ := hj.inColumn lettered_price ho'
    exact ⟨⟨name, price⟩, by simp only [columns, column?, hname, hprice], hiname, hjprice⟩

theorem ofSheet_cons_error {s : Sheet} {f : Flaw} (h : ofRecords header s.records = .error f) :
    ofSheet (s.cons header) = .error (.content f) := by
  simp only [ofSheet, Sheet.cons, h]

theorem ofSheet_cons_ne_missing (hi : InColumn "name" header i) (hj : InColumn "price" header j)
    (s : Sheet) (column : Text) :
    ofSheet (s.cons header) ≠ .error (.content (.missingColumn column)) := by
  have hne : ofRecords header s.records ≠ .error (.missingColumn column) :=
    ofRecords_ne_missing hi hj column
  cases h : ofRecords header s.records with
  | error f =>
      rw [ofSheet_cons_error h]
      intro he
      cases he
      exact hne h
  | ok table =>
      simp only [ofSheet, Sheet.cons, h]
      cases s.fault with
      | none => simp
      | some f => simp

/-- What a sheet comes to by the decorations in its header, beside what it comes to with the plain
header. -/
theorem ofSheet_decorated (hi : OnlyTitle "name" header i front)
    (hj : OnlyTitle "price" header j front') (s : Sheet) :
    (∀ column, ofSheet (s.cons (plain header i j)) ≠ .error (.content (.missingColumn column))) ∧
    (Orderly front → Orderly front' →
      ofSheet (s.cons header) = ofSheet (s.cons (plain header i j))) ∧
    (¬ Orderly front → ofSheet (s.cons header) = .error (.content (.missingColumn "name"))) ∧
    (Orderly front → ¬ Orderly front' →
      ofSheet (s.cons header) = .error (.content (.missingColumn "price"))) := by
  have hnone : Orderly [] := ⟨[], [], rfl, nofun, nofun⟩
  obtain ⟨hplain, hplain'⟩ := plain_titles hi hj
  have hname : InColumn "name" (plain header i j) i := hplain.inColumn lettered_name hnone
  have hprice : InColumn "price" (plain header i j) j := hplain'.inColumn lettered_price hnone
  refine ⟨ofSheet_cons_ne_missing hname hprice s, ?_, ?_, ?_⟩
  · intro ho ho'
    have hrecords := ofRecords_congr (hi.inColumn lettered_name ho) (hj.inColumn lettered_price ho')
      hname hprice s.records
    simp only [ofSheet, Sheet.cons, hrecords]
  · intro ho
    exact ofSheet_cons_error (ofRecords_unnamed (hi.unnamed lettered_name ho))
  · intro ho ho'
    exact ofSheet_cons_error
      (ofRecords_untitled (hi.inColumn lettered_name ho) (hj.unnamed lettered_price ho'))

end

/-- Decorations around the titles of a catalog are nothing exactly where no white space comes after
a byte order mark. Then both columns are found, and the file comes to what the file with the plain
header comes to: the same prices, the same bad row, or the same end of the reading. Otherwise the
title is missing, as it never is with the plain header. A mark at the very start of a file is no
part of its text, and any file that can be read has its plain counterpart. -/
theorem load_decorated {header : Record} {i j : Nat} {front front' : Text}
    (hi : OnlyTitle "name" header i front) (hj : OnlyTitle "price" header j front')
    {bytes : List UInt8} {opener : Opener} {path : Text} (hopen : opener path = .ok bytes) :
    (∀ t more, Text.Utf8.Holds bytes t → Csv.recordsOf t = header :: more →
      ∃ bytes', Csv.Differ header (plain header i j) bytes bytes') ∧
    ((∃ c, columns header = .ok c ∧ header[i]? = some c.name ∧ header[j]? = some c.price) ↔
      Orderly front ∧ Orderly front') ∧
    ∀ bytes' path', Csv.Differ header (plain header i j) bytes bytes' →
      opener path' = .ok bytes' →
      let o := load opener path
      ((∃ cell ∈ header, Csv.maxCell < cell.length) → o = .error (.reading .cellTooLong)) ∧
      ((∀ cell ∈ header, cell.length ≤ Csv.maxCell) →
        (∀ column, load opener path' ≠ .error (.content (.missingColumn column))) ∧
        (o = load opener path' ↔ Orderly front ∧ Orderly front') ∧
        (¬ Orderly front → o = .error (.content (.missingColumn "name"))) ∧
        (Orderly front → ¬ Orderly front' → o = .error (.content (.missingColumn "price")))) := by
  refine ⟨?_, columns_iff hi hj, ?_⟩
  · intro t more ht hrecords
    have hlen : 2 ≤ header.length := two_le_of_titles hi hj
    have hne : header ≠ [] := by
      rintro rfl
      cases hlen
    exact Csv.exists_differ ht hrecords hne (by simpa [plain] using hlen)
  · intro bytes' path' hdiffer hopen'
    have hload : load opener path = ofSheet (Sheet.ofBytes bytes) := by
      simp only [load, hopen, ofBytes]
    have hload' : load opener path' = ofSheet (Sheet.ofBytes bytes') := by
      simp only [load, hopen', ofBytes]
    dsimp only
    refine ⟨fun hlong => ?_, fun hfits => ?_⟩
    · rw [hload, hdiffer.sheet_long hlong, ofSheet]
    · obtain ⟨s, hs, hs'⟩ := hdiffer.sheets hfits (plain_fits hfits i j)
      obtain ⟨hfound, hsame, hname, hprice⟩ := ofSheet_decorated hi hj s
      rw [hload, hload', hs, hs']
      refine ⟨hfound, ⟨fun h => ?_, fun h => hsame h.1 h.2⟩, hname, hprice⟩
      by_contra hout
      by_cases ho : Orderly front
      · exact hfound _ (h.symm.trans (hprice ho fun ho' => hout ⟨ho, ho'⟩))
      · exact hfound _ (h.symm.trans (hname ho))

def decoratedLine : Text := "note,\t\uFEFF\uFEFFNaMe ,\" Price\""

def decoratedHeader : Record := ["note", "\t\uFEFF\uFEFFNaMe ", " Price"].map String.toList

def plainLine : Text := "note,name,price"

def cupRest : Text := "\r\nx,tea,5\ny,cup,-1\n"

def cupFiles : Opener := fun path =>
  .ok (Text.Utf8.encode (if path = "p.csv" then decoratedLine ++ cupRest else plainLine ++ cupRest))

theorem load_decorated_cup :
    OnlyTitle "name" decoratedHeader 1 "\t\uFEFF\uFEFF" ∧ OnlyTitle "price" decoratedHeader 2 " " ∧
      load cupFiles "p.csv" = load cupFiles "q.csv" ∧
      load cupFiles "q.csv" = .error (.content (.badPrice 3)) := by
  have hcell : decoratedHeader[1]? = some "\t\uFEFF\uFEFFNaMe ".toList := rfl
  have hcell' : decoratedHeader[2]? = some " Price".toList := rfl
  have hname : Titled "name" "\t\uFEFF\uFEFF" "\t\uFEFF\uFEFFNaMe ".toList :=
    .title "NaMe" " " (List.all_eq_true.mp rfl) rfl (List.all_eq_true.mp rfl)
  have hprice : Titled "price" " " " Price".toList :=
    .title "Price" [] (List.all_eq_true.mp rfl) rfl nofun
  have hi : OnlyTitle "name" decoratedHeader 1 "\t\uFEFF\uFEFF" :=
    .of_letters lettered_name hcell hname (by decide +kernel)
  have hj : OnlyTitle "price" decoratedHeader 2 " " :=
    .of_letters lettered_price hcell' hprice (by decide +kernel)
  have hread : Csv.Reader.read decoratedLine = ⟨.quote, " Price".toList.reverse,
      ["\t\uFEFF\uFEFFNaMe ".toList, "note".toList], []⟩ := by decide +kernel
  have hread' : Csv.Reader.read plainLine = ⟨.plain, "price".toList.reverse,
      ["name".toList, "note".toList], []⟩ := by decide +kernel
  have hdiffer : Csv.Differ decoratedHeader (plain decoratedHeader 1 2)
      (Text.Utf8.encode (decoratedLine ++ cupRest)) (Text.Utf8.encode (plainLine ++ cupRest)) :=
    .lines (.read hread rfl (.lineEnd (.inr (.inr rfl)) rfl _))
      (.read hread' rfl (.lineEnd (.inr (.inl rfl)) rfl _))
      ((Text.Utf8.read_eq_whole _ _).mpr (.inl ⟨_, rfl, rfl⟩))
      ((Text.Utf8.read_eq_whole _ _).mpr (.inl ⟨_, rfl, rfl⟩)) (.inl rfl)
  have hopen : cupFiles "p.csv" = .ok (Text.Utf8.encode (decoratedLine ++ cupRest)) := rfl
  obtain ⟨_, _, hload⟩ := load_decorated hi hj hopen
  obtain ⟨_, hfits⟩ := hload _ "q.csv" hdiffer rfl
  obtain ⟨_, hsame, _⟩ := hfits (by decide +kernel)
  refine ⟨hi, hj, hsame.mpr ⟨?_, ?_⟩, by decide +kernel⟩
  · exact orderly_iff.mpr rfl
  · exact orderly_iff.mpr rfl

/-- White space after a byte order mark hides a title that begins no file. -/
theorem marked_blank_missing :
    let files : Opener := fun path => .ok (Text.Utf8.encode
      (if path = "p.csv" then "price,\uFEFF name\n5,tea\n" else "price,name\n5,tea\n"))
    OnlyTitle "name" (["price", "\uFEFF name"].map String.toList) 1 "\uFEFF " ∧
      OnlyTitle "price" (["price", "\uFEFF name"].map String.toList) 0 [] ∧
      load files "p.csv" = .error (.content (.missingColumn "name")) ∧
      load files "q.csv" = .ok [("tea", some 5)] := by
  have hcell : (["price", "\uFEFF name"].map String.toList)[1]? = some "\uFEFF name".toList := rfl
  have hname : Titled "name" "\uFEFF " "\uFEFF name".toList :=
    .title "name" [] (List.all_eq_true.mp rfl) rfl nofun
  refine ⟨.of_letters lettered_name hcell hname (by decide +kernel),
    .of_letters lettered_price rfl (titled_self lettered_price) (by decide +kernel), ?_, ?_⟩
  · decide +kernel
  · decide +kernel

end Checkout.Catalog
