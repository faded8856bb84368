import Checkout.Text

namespace Checkout.Environment

structure Entry where
  name : Text
  value : Option Text
  deriving DecidableEq, Repr

def isLineEnd (c : Char) : Bool := c == '\n' || c == '\r'

def isLineBlank (c : Char) : Bool := Text.isBlank c && !isLineEnd c

def skipBlanks (t : Text) : Text := t.dropWhile isLineBlank

def afterLine (t : Text) : Text := t.dropWhile fun c => !isLineEnd c

def endsLine (t : Text) : Bool :=
  match skipBlanks t with
  | [] => true
  | c :: _ => c == '#' || isLineEnd c

/-- A quoted text up to its closing quote, and what follows. A backslash and the character after
it belong together. -/
def untilQuote (quote : Char) : Text → Option (Text × Text)
  | [] => none
  | ['\\'] => none
  | '\\' :: c :: t => (untilQuote quote t).map fun (value, rest) => ('\\' :: c :: value, rest)
  | c :: t =>
      if c = quote then some ([], t)
      else (untilQuote quote t).map fun (value, rest) => (c :: value, rest)

abbrev Escapes := List (Char × Char)

def singleEscapes : Escapes := [('\\', '\\'), ('\'', '\'')]

def doubleEscapes : Escapes :=
  [('\\', '\\'), ('\'', '\''), ('"', '"'), ('a', '\x07'), ('b', '\x08'), ('f', '\x0C'),
    ('n', '\n'), ('r', '\r'), ('t', '\t'), ('v', '\x0B')]

def unescape (escapes : Escapes) : Text → Text
  | [] => []
  | [c] => [c]
  | c :: d :: t =>
      match if c = '\\' then escapes.lookup d else none with
      | some e => e :: unescape escapes t
      | none => c :: unescape escapes (d :: t)

def beforeComment : Text → Text
  | [] => []
  | c :: t =>
      if Text.isBlank c ∧ (t.dropWhile Text.isBlank).head? = some '#' then []
      else c :: beforeComment t

def plainValue (t : Text) : Text :=
  Text.strip (beforeComment (t.takeWhile fun c => !isLineEnd c))

/-- The value after an equals sign, and what follows it. Only a quoted value may hold line ends. -/
def value? (t : Text) : Option (Text × Text) :=
  match skipBlanks t with
  | '\'' :: u => (untilQuote '\'' u).map fun (v, rest) => (unescape singleEscapes v, rest)
  | '"' :: u => (untilQuote '"' u).map fun (v, rest) => (unescape doubleEscapes v, rest)
  | _ => some (plainValue t, afterLine t)

def isNameChar (c : Char) : Bool := c != '=' && c != '#' && !Text.isBlank c

def name? : Text → Option (Text × Text)
  | '\'' :: t =>
      match Text.splitFirst '\'' t with
      | some (c :: name, rest) => some (c :: name, rest)
      | _ => none
  | t =>
      match t.takeWhile isNameChar with
      | [] => none
      | c :: name => some (c :: name, t.dropWhile isNameChar)

def dropExport (t : Text) : Text :=
  match t with
  | 'e' :: 'x' :: 'p' :: 'o' :: 'r' :: 't' :: c :: u => if isLineBlank c then skipBlanks u else t
  | _ => t

/-- What a name stands before: a value, or nothing at all. What follows is given up to the end of
the line, also where there is no entry in the line. -/
def Entry.named (name t : Text) : Option Entry × Text :=
  match skipBlanks t with
  | '=' :: u =>
      match value? u with
      | none => (none, afterLine u)
      | some (v, rest) => (if endsLine rest then some ⟨name, some v⟩ else none, afterLine rest)
  | _ => (if endsLine t then some ⟨name, none⟩ else none, afterLine t)

def Entry.read (t : Text) : Option Entry × Text :=
  match name? (dropExport t) with
  | none => (none, afterLine (dropExport t))
  | some (name, rest) => Entry.named name rest

/-- The entries of a text in order. The next `skip` characters belong to the entry read last. -/
def entriesFrom : (skip : Nat) → Text → List Entry
  | _, [] => []
  | skip + 1, _ :: t => entriesFrom skip t
  | 0, c :: t =>
      if Text.isBlank c then entriesFrom 0 t
      else
        match Entry.read (c :: t) with
        | (none, rest) => entriesFrom (t.length - rest.length) t
        | (some e, rest) => e :: entriesFrom (t.length - rest.length) t

def mark : Char := '\uFEFF'

def entries : Text → List Entry
  | [] => []
  | c :: t => if c = mark then entriesFrom 0 t else entriesFrom 0 (c :: t)

end Checkout.Environment
