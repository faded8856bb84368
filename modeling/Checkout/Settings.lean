import Checkout.Currency
import Checkout.Environment
import Checkout.Template

namespace Checkout

structure Settings where
  currency : Text
  lineFormat : Option Text
  consume : Bool
  catalog : Option Text
  deriving DecidableEq, Repr

namespace Settings

/-- A setting as it is given. One that is missing was announced, but nothing followed. -/
inductive Value
  | missing
  | null
  | text (t : Text)
  | flag (b : Bool)
  | integer (n : Int)
  deriving DecidableEq, Repr

structure Given where
  currency : Option Value
  lineFormat : Option Value
  consume : Option Value
  catalog : Option Value
  deriving DecidableEq, Repr

inductive Fault
  | emptyCurrency
  | longNumeral
  | template (u : Template.Unknown)
  | notText
  | notFlag
  | unclearFlag
  | frozen
  deriving DecidableEq, Repr

def Fault.kind : Fault → Text
  | .emptyCurrency => "value_error"
  | .longNumeral => "value_error"
  | .template _ => "value_error"
  | .notText => "string_type"
  | .notFlag => "bool_type"
  | .unclearFlag => "bool_parsing"
  | .frozen => "frozen_instance"

def Fault.message : Fault → Text
  | .emptyCurrency => "Value error, currency must not be empty"
  | .longNumeral => "Value error, Exceeds the limit (4300 digits) for integer string conversion"
  | .template u => "Value error, " ++ u.message
  | .notText => "Input should be a valid string"
  | .notFlag => "Input should be a valid boolean"
  | .unclearFlag => "Input should be a valid boolean, unable to interpret input"
  | .frozen => "Instance is frozen"

structure Error where
  setting : Text
  fault : Fault
  deriving DecidableEq, Repr

/-- What a currency is read from. Nothing, `false` and zero are no currency at all. -/
def currencyText? : Value → Option Text
  | .missing => some []
  | .null => some []
  | .text t => some t
  | .flag true => some "true"
  | .flag false => some []
  | .integer 0 => some []
  | .integer n => Numeral.write? n

def readCurrency (v : Value) : Except Fault Text :=
  match currencyText? v with
  | none => .error .longNumeral
  | some t => if Currency.normalize t = [] then .error .emptyCurrency else .ok (Currency.normalize t)

def readLineFormat : Value → Except Fault (Option Text)
  | .null => .ok none
  | .text [] => .ok none
  | .text t =>
      match Template.check (some t) with
      | .error u => .error (.template u)
      | .ok () => .ok (some t)
  | _ => .error .notText

def trueWords : List String := ["1", "on", "t", "true", "y", "yes"]

def falseWords : List String := ["0", "off", "f", "false", "n", "no"]

/-- An integer that fills at most 64 bits counts as an attempt at a flag. -/
def readConsume : Value → Except Fault Bool
  | .missing => .error .notFlag
  | .null => .error .notFlag
  | .flag b => .ok b
  | .text t =>
      if trueWords.any (Text.isWord · t) then .ok true
      else if falseWords.any (Text.isWord · t) then .ok false
      else .error .unclearFlag
  | .integer n =>
      if n = 0 then .ok false
      else if n = 1 then .ok true
      else if -0x8000000000000000 ≤ n ∧ n < 0x8000000000000000 then .error .unclearFlag
      else .error .notFlag

def readCatalog : Value → Except Fault (Option Text)
  | .missing => .ok none
  | .null => .ok none
  | .text [] => .ok none
  | .text t => .ok (some t)
  | .flag false => .ok none
  | .integer 0 => .ok none
  | _ => .error .notText

def defaultCurrency : Text := Currency.eur.code

def standard : Settings := ⟨defaultCurrency, none, false, none⟩

def Given.nothing : Given := ⟨none, none, none, none⟩

def orDefault {α : Type} (default : α) (reader : Value → Except Fault α) :
    Option Value → Except Fault α
  | none => .ok default
  | some v => reader v

def errors {α : Type} (setting : Text) : Except Fault α → List Error
  | .ok _ => []
  | .error f => [⟨setting, f⟩]

def ofGiven (g : Given) : Except (List Error) Settings :=
  let c := orDefault standard.currency readCurrency g.currency
  let l := orDefault standard.lineFormat readLineFormat g.lineFormat
  let u := orDefault standard.consume readConsume g.consume
  let p := orDefault standard.catalog readCatalog g.catalog
  match c, l, u, p with
  | .ok c, .ok l, .ok u, .ok p => .ok ⟨c, l, u, p⟩
  | _, _, _, _ => .error (errors "currency" c ++ errors "line_format" l ++
      errors "consume_on_receipt" u ++ errors "price_catalog" p)

def assign (_ : Settings) (setting : Text) : List Error := [⟨setting, .frozen⟩]

def Value.ofOption : Option Text → Value
  | none => .null
  | some t => .text t

def given (s : Settings) : Given :=
  ⟨some (.text s.currency), some (Value.ofOption s.lineFormat), some (.flag s.consume),
    some (Value.ofOption s.catalog)⟩

def environmentWords : List String := ["1", "true", "yes", "on"]

def environmentFlag (t : Text) : Bool := environmentWords.any (Text.isWord · (Text.strip t))

def givenByEnvironment (env : Environment) : Given :=
  ⟨some (.text ((env.get? "TILL_CURRENCY").getD defaultCurrency)),
    some (.text ((env.get? "TILL_LINE_FORMAT").getD [])),
    some (.flag (environmentFlag ((env.get? "TILL_CONSUME_ON_RECEIPT").getD []))),
    some (.text ((env.get? "TILL_PRICE_CATALOG").getD []))⟩

def ofEnvironment (env : Environment) : Except (List Error) Settings :=
  ofGiven (givenByEnvironment env)

structure Overrides where
  currency : Option Value
  lineFormat : Option Value
  catalog : Option Value
  consume : Bool
  deriving DecidableEq, Repr

def Overrides.none : Overrides := ⟨.none, .none, .none, false⟩

def override (s : Settings) (o : Overrides) : Given :=
  { currency := o.currency.or s.given.currency
    lineFormat := o.lineFormat.or s.given.lineFormat
    consume := if o.consume then some (.flag true) else s.given.consume
    catalog := o.catalog.or s.given.catalog }

/-- The environment's settings have to be acceptable by themselves, also where the command line
overrides them. -/
def load (env : Environment) (o : Overrides) : Except (List Error) Settings :=
  match ofEnvironment env with
  | .error e => .error e
  | .ok s => if o = .none then .ok s else ofGiven (s.override o)

end Settings

end Checkout
