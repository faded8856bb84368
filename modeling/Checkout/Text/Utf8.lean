import Checkout.Text

namespace Checkout.Text.Utf8

/-- Between characters, or inside one: how many bytes are owed, the range of the next one, and
the bits read so far. -/
inductive State
  | start
  | owed (bytes low high bits : Nat)
  deriving DecidableEq, Repr

/-- The first byte of a character of several bytes. The narrower ranges after `E0`, `F0` and `F4`
shut out overlong forms and numbers beyond the last code point. -/
def lead (b : Nat) : Option State :=
  if b < 0xC2 then none
  else if b < 0xE0 then some (.owed 1 0x80 0xBF (b - 0xC0))
  else if b = 0xE0 then some (.owed 2 0xA0 0xBF 0)
  else if b < 0xF0 then some (.owed 2 0x80 0xBF (b - 0xE0))
  else if b = 0xF0 then some (.owed 3 0x90 0xBF 0)
  else if b < 0xF4 then some (.owed 3 0x80 0xBF (b - 0xF0))
  else if b = 0xF4 then some (.owed 3 0x80 0x8F 4)
  else none

/-- The last byte of a character is owed. After two bytes of a surrogate there is none: they are
refused together with whatever follows them. -/
def last (bits : Nat) : State :=
  if 0xD800 / 64 ≤ bits ∧ bits ≤ 0xDFFF / 64 then .owed 1 1 0 bits else .owed 1 0x80 0xBF bits

def step : State → UInt8 → Option (State × Option Char)
  | .start, b =>
      if b.toNat < 0x80 then some (.start, some (Char.ofNat b.toNat))
      else (lead b.toNat).map (·, none)
  | .owed bytes low high bits, b =>
      if low ≤ b.toNat ∧ b.toNat ≤ high then
        let bits := bits * 64 + (b.toNat - 0x80)
        if bytes = 1 then some (.start, some (Char.ofNat bits))
        else if bytes = 2 then some (last bits, none)
        else some (.owed (bytes - 1) 0x80 0xBF bits, none)
      else none

def run : State → Text → List UInt8 → Option (State × Text)
  | s, read, [] => some (s, read)
  | s, read, b :: bs =>
      match step s b with
      | none => none
      | some (s, none) => run s read bs
      | some (s, some c) => run s (c :: read) bs

structure Reading where
  text : Text
  whole : Bool
  deriving DecidableEq, Repr

/-- Blocks are read one by one. A block with a byte that cannot stand is lost as a whole, and
everything after it. -/
def runBlocks : State → Text → List (List UInt8) → Reading
  | s, read, [] => ⟨read.reverse, s == .start⟩
  | s, read, block :: blocks =>
      match run s read block with
      | none => ⟨read.reverse, false⟩
      | some (s, read) => runBlocks s read blocks

def blocks (size : Nat) (bytes : List UInt8) : List (List UInt8) :=
  (List.range ((bytes.length + size - 1) / size)).map fun i => (bytes.drop (i * size)).take size

def mark : List UInt8 := [0xEF, 0xBB, 0xBF]

def blockSize : Nat := 8192

/-- The text of a file. A byte order mark in front is no part of it, and a file that stops within
the mark is empty. -/
def read (bytes : List UInt8) : Reading :=
  if bytes = mark.take 1 ∨ bytes = mark.take 2 then ⟨[], true⟩
  else
    let reading := runBlocks .start [] (blocks blockSize bytes)
    match reading.text with
    | '\uFEFF' :: text => { reading with text }
    | _ => reading

end Checkout.Text.Utf8
