import Checkout.CommandLine.Scan
import Checkout.Settings

namespace Checkout.CommandLine

inductive Flag
  | help
  | currency
  | format
  | prices
  | consume
  | json
  deriving DecidableEq, Repr

def Flag.title : Flag → Text
  | .help => "-h/--help"
  | .currency => "--currency"
  | .format => "--format"
  | .prices => "--prices"
  | .consume => "--consume"
  | .json => "--json"

def Flag.takesValue : Flag → Bool
  | .currency | .format | .prices => true
  | .help | .consume | .json => false

/-- The spellings of the flags, in the order in which an abbreviation is looked up. -/
def flags : List (Text × Flag) :=
  [("-h", .help), ("--help", .help), ("--currency", .currency), ("--format", .format),
    ("--prices", .prices), ("--consume", .consume), ("--json", .json)]

inductive Word
  | plain (t : Text)
  | separator
  | flag (f : Flag) (attached : Option Text)
  | helpAnd (tail : Text)
  | unknown (t : Text)
  deriving DecidableEq, Repr

inductive Error
  | ambiguous (word : Text) (matching : List Text)
  | ignoredValue (f : Flag) (value : Text)
  | missingValue (f : Flag)
  | scan (e : Scan.Error)
  | unrecognized (words : List Text)
  deriving DecidableEq, Repr

def Error.message : Error → Text
  | .ambiguous word matching =>
      "ambiguous option: " ++ word ++ " could match " ++ Text.joined ", " matching
  | .ignoredValue f value =>
      "argument " ++ f.title ++ ": ignored explicit argument " ++ Text.quoted value
  | .missingValue f => "argument " ++ f.title ++ ": expected one argument"
  | .scan e => "argument SCAN: " ++ e.message
  | .unrecognized words => "unrecognized arguments: " ++ Text.joined [' '] words

def isDigits (t : Text) : Bool := !t.isEmpty && t.all fun c => (Text.digit? c).isSome

/-- The rest of a word that a minus sign begins and that is a negative number. A line feed at the
end does no harm. -/
def isNumber (t : Text) : Bool :=
  let body := if t.getLast? = some '\n' then t.dropLast else t
  isDigits body ||
    match body.dropWhile fun c => (Text.digit? c).isSome with
    | '.' :: places => isDigits places
    | _ => false

def splitValue (word : Text) : Text × Option Text :=
  match Text.splitFirst '=' word with
  | none => (word, none)
  | some (name, value) => (name, some value)

def classifyOther (word tail : Text) : Word :=
  if isNumber tail ∨ ' ' ∈ word then .plain word else .unknown word

/-- A flag may be spelled in full, with a value after an equals sign, and, with two dashes, be
abbreviated to any beginning that only it has. -/
def classify (word : Text) : Except Error Word :=
  match word with
  | '-' :: c :: tail =>
      let (name, value) := splitValue word
      match flags.lookup word, flags.lookup name with
      | some f, _ => .ok (.flag f none)
      | none, some f =>
          match value with
          | some (d :: v) => .ok (if c = 'h' then .helpAnd (d :: v) else .flag f value)
          | _ => .ok (.flag f value)
      | none, none =>
          if c = '-' then
            match flags.filter fun e => name.isPrefixOf e.1 with
            | [] => .ok (classifyOther word (c :: tail))
            | [e] => .ok (.flag e.2 value)
            | matching => .error (.ambiguous word (matching.map (·.1)))
          else if c = 'h' then .ok (.helpAnd tail)
          else .ok (classifyOther word (c :: tail))
  | _ => .ok (.plain word)

def classifyAll : List Text → Except Error (List Word)
  | [] => .ok []
  | word :: words =>
      if word = "--" then .ok (.separator :: words.map .plain)
      else
        match classify word with
        | .error e => .error e
        | .ok w => (classifyAll words).map (w :: ·)

/-- What stands after `-h` in one word. Only further `h` are flags, and anything else is refused, so
that no help is given. -/
def checkTail (tail : Text) : Except Error Unit :=
  match tail.dropWhile (· == 'h') with
  | [] => .ok ()
  | rest => .error (.ignoredValue .help rest)

/-- The scans are one run of plain words. Words of later runs are left over. -/
inductive Scans
  | awaited
  | running (words : List Text)
  | taken (scans : List Scan)
  deriving DecidableEq, Repr

structure Arguments where
  overrides : Settings.Overrides
  json : Bool
  scans : List Scan
  deriving DecidableEq, Repr

structure Progress where
  overrides : Settings.Overrides
  json : Bool
  scans : Scans
  left : List Text
  deriving DecidableEq, Repr

namespace Progress

def start : Progress := ⟨.none, false, .awaited, []⟩

def word (p : Progress) (t : Text) : Progress :=
  match p.scans with
  | .awaited => { p with scans := .running [t] }
  | .running words => { p with scans := .running (words ++ [t]) }
  | .taken _ => { p with left := p.left ++ [t] }

def separator (p : Progress) : Progress :=
  match p.scans with
  | .awaited => { p with scans := .running [] }
  | .running _ => p
  | .taken _ => { p with left := p.left ++ [("--" : Text)] }

def parseAll : List Text → Except Error (List Scan)
  | [] => .ok []
  | word :: words =>
      match Scan.parse word with
      | .error e => .error (.scan e)
      | .ok s => (parseAll words).map (s :: ·)

/-- A flag ends a run of plain words, which is read then. -/
def endRun (p : Progress) : Except Error Progress :=
  match p.scans with
  | .running words => (parseAll words).map fun scans => { p with scans := .taken scans }
  | _ => .ok p

/-- The separator is never a value. Where it is attached to a flag it is taken away, and the flag is
given without one. -/
def value (t : Text) : Settings.Value := if t = "--" then .missing else .text t

def setValue (p : Progress) (f : Flag) (t : Text) : Progress :=
  match f with
  | .currency => { p with overrides := { p.overrides with currency := some (value t) } }
  | .format => { p with overrides := { p.overrides with lineFormat := some (value t) } }
  | .prices => { p with overrides := { p.overrides with catalog := some (value t) } }
  | _ => p

def switch (p : Progress) (f : Flag) : Progress :=
  match f with
  | .consume => { p with overrides := { p.overrides with consume := true } }
  | .json => { p with json := true }
  | _ => p

def finish (p : Progress) : Except Error Arguments :=
  p.endRun.bind fun p =>
    if p.left = [] then
      .ok ⟨p.overrides, p.json, match p.scans with | .taken scans => scans | _ => []⟩
    else .error (.unrecognized p.left)

end Progress

inductive Request
  | help
  | receipt (a : Arguments)
  deriving DecidableEq, Repr

def take : Progress → List Word → Except Error Request
  | p, [] => p.finish.map .receipt
  | p, .plain t :: words => take (p.word t) words
  | p, .separator :: words => take p.separator words
  | p, .unknown t :: words =>
      match p.endRun with
      | .error e => .error e
      | .ok p => take { p with left := p.left ++ [t] } words
  | p, .helpAnd tail :: _ =>
      match p.endRun with
      | .error e => .error e
      | .ok _ => (checkTail tail).map fun _ => .help
  | p, .flag f (some value) :: words =>
      match p.endRun with
      | .error e => .error e
      | .ok p =>
          if f.takesValue then take (p.setValue f value) words
          else .error (.ignoredValue f value)
  | p, .flag f none :: words =>
      match p.endRun with
      | .error e => .error e
      | .ok p =>
          if f.takesValue then
            match words with
            | .plain value :: words => take (p.setValue f value) words
            | _ => .error (.missingValue f)
          else if f = .help then .ok .help
          else take (p.switch f) words

def parse (words : List Text) : Except Error Request :=
  (classifyAll words).bind (take .start)

end Checkout.CommandLine
