import Checkout.Text.Utf8

namespace Checkout.Csv

abbrev Record := List Text

inductive Mode
  | record
  | afterReturn
  | cell
  | plain
  | quoted
  | quote
  deriving DecidableEq, Repr

/-- A reader of comma separated records. The cell, the cells of the record and the records are
held latest first. -/
structure Reader where
  mode : Mode
  cell : Text
  cells : List Text
  records : List Record
  deriving DecidableEq, Repr

namespace Reader

def start : Reader := ⟨.record, [], [], []⟩

def push (r : Reader) (mode : Mode) (c : Char) : Reader := { r with mode, cell := c :: r.cell }

def endCell (r : Reader) : Reader :=
  { r with mode := .cell, cell := [], cells := r.cell.reverse :: r.cells }

def endRecord (r : Reader) (mode : Mode) : Reader :=
  ⟨mode, [], [], r.cells.reverse :: r.records⟩

def lineEnd? (c : Char) : Option Mode :=
  if c = '\n' then some .record else if c = '\r' then some .afterReturn else none

def endOr (r : Reader) (c : Char) (other : Reader) : Reader :=
  match lineEnd? c with
  | some mode => r.endCell.endRecord mode
  | none => if c = ',' then r.endCell else other

/-- The first character of a cell. Only here does a quote open a quoted cell. -/
def beginCell (r : Reader) (c : Char) : Reader :=
  r.endOr c (if c = '"' then { r with mode := .quoted } else r.push .plain c)

def feed (r : Reader) (c : Char) : Reader :=
  match r.mode with
  | .record =>
      match lineEnd? c with
      | some mode => r.endRecord mode
      | none => r.beginCell c
  | .afterReturn =>
      if c = '\n' then { r with mode := .record }
      else match lineEnd? c with
        | some mode => r.endRecord mode
        | none => r.beginCell c
  | .cell => r.beginCell c
  | .plain => r.endOr c (r.push .plain c)
  | .quoted => if c = '"' then { r with mode := .quote } else r.push .quoted c
  | .quote => if c = '"' then r.push .quoted c else r.endOr c (r.push .plain c)

/-- The end of the text ends the record that has begun, also within quotes. -/
def finish (r : Reader) : Reader :=
  match r.mode with
  | .record => r
  | .afterReturn => r
  | _ => r.endCell.endRecord .record

def read (t : Text) : Reader := t.foldl feed start

end Reader

def recordsOf (t : Text) : List Record := (Reader.read t).finish.records.reverse

inductive Fault
  | undecodable
  | cellTooLong
  deriving DecidableEq, Repr

structure Sheet where
  records : List Record
  fault : Option Fault
  deriving DecidableEq, Repr

def maxCell : Nat := 131072

def isTooLong (cell : Text) : Bool := maxCell < cell.length

def Sheet.limit (s : Sheet) : Sheet :=
  if s.records.any (·.any isTooLong) then
    ⟨s.records.takeWhile fun r => !r.any isTooLong, some .cellTooLong⟩
  else s

/-- The lines of a text that are known to be complete. A carriage return at the very end may yet
be followed by a line feed. -/
def completeLines (t : Text) : Text :=
  let body := if t.getLast? = some '\r' then t.dropLast else t
  (body.reverse.dropWhile fun c => c != '\n' && c != '\r').reverse

/-- Of a text that is cut short by bytes that cannot be decoded, only complete lines are read. -/
def Sheet.ofReading (r : Text.Utf8.Reading) : Sheet :=
  if r.whole then (Sheet.mk (recordsOf r.text) none).limit
  else
    let reader := Reader.read (completeLines r.text)
    let sheet := (Sheet.mk reader.records.reverse (some .undecodable)).limit
    if isTooLong reader.cell ∨ reader.cells.any isTooLong then
      { sheet with fault := some .cellTooLong }
    else sheet

def Sheet.ofBytes (bytes : List UInt8) : Sheet := Sheet.ofReading (Text.Utf8.read bytes)

end Checkout.Csv
