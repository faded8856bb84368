import Checkout.Csv
import Checkout.Files
import Checkout.Log
import Checkout.PriceTable
import Checkout.Report

namespace Checkout.Catalog

open Csv (Record Sheet)

inductive Flaw
  | missingColumn (column : Text)
  | badPrice (row : Nat)
  deriving DecidableEq, Repr

inductive Error
  | file (e : Files.OpenError)
  | reading (f : Csv.Fault)
  | content (f : Flaw)
  deriving DecidableEq, Repr

def Flaw.report (f : Flaw) (source : Text) : Report :=
  match f with
  | .missingColumn column =>
      .catalog ("price catalog is missing a required column: " ++ column) (some source) none
  | .badPrice row =>
      .catalog "price must be a non-negative integer in minor units" (some source) (some row)

def mark : Char := '\uFEFF'

/-- Whether a header cell names a column: white space, then byte order marks in front of it, and
the case of its letters are nothing. -/
def names (column : String) (cell : Text) : Bool :=
  Text.isWord column ((Text.strip cell).dropWhile (· == mark))

def column? (header : Record) (column : String) : Option Text := header.find? (names column)

/-- A record's cell in the last column with the given header. A missing cell is empty. -/
def cell (header : Record) (column : Text) (record : Record) : Text :=
  match (header.zipIdx.filter (·.1 == column)).getLast? with
  | none => []
  | some (_, i) => (record[i]?).getD []

structure Columns where
  name : Text
  price : Text
  deriving DecidableEq, Repr

def columns (header : Record) : Except Flaw Columns :=
  match column? header "name" with
  | none => .error (.missingColumn "name")
  | some name =>
      match column? header "price" with
      | none => .error (.missingColumn "price")
      | some price => .ok ⟨name, price⟩

def price? (t : Text) : Option Int :=
  match Numeral.read? (Text.strip t) with
  | some n => if n < 0 then none else some n
  | none => none

/-- The rows in order. A row without a name lists nothing, whatever its price. -/
def rows (header : Record) (columns : Columns) (prices : PriceTable) (row : Nat) :
    List Record → Except Flaw PriceTable
  | [] => .ok prices
  | record :: records =>
      let name := Text.strip (cell header columns.name record)
      if name = [] then rows header columns prices (row + 1) records
      else
        match price? (cell header columns.price record) with
        | none => .error (.badPrice row)
        | some p => rows header columns (prices.insert name (some p)) (row + 1) records

/-- The header is the first record, empty or not. Later empty records are no rows. -/
def ofRecords (header : Record) (records : List Record) : Except Flaw PriceTable :=
  match columns header with
  | .error f => .error f
  | .ok columns => rows header columns [] 2 (records.filter (· != []))

/-- What is wrong with the records that could be read is told before what stopped the reading. -/
def ofSheet (s : Sheet) : Except Error PriceTable :=
  match s.records, s.fault with
  | [], some f => .error (.reading f)
  | [], none => .error (.content (.missingColumn "name"))
  | header :: records, fault =>
      match ofRecords header records, fault with
      | .error f, _ => .error (.content f)
      | .ok _, some f => .error (.reading f)
      | .ok prices, none => .ok prices

def ofBytes (bytes : List UInt8) : Except Error PriceTable := ofSheet (Sheet.ofBytes bytes)

abbrev Opener := Text → Except Files.OpenError (List UInt8)

def loaded (prices : PriceTable) (path : Text) : Log.Entry :=
  ⟨.info, "Loaded " ++ Numeral.natural prices.length ++ " prices from " ++ Files.baseName path⟩

def load (opener : Opener) (path : Text) : Except Error PriceTable :=
  match opener path with
  | .error e => .error (.file e)
  | .ok bytes => ofBytes bytes

end Checkout.Catalog
