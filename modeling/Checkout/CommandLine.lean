import Checkout.Cart
import Checkout.Catalog
import Checkout.CommandLine.Arguments
import Checkout.CommandLine.Usage
import Checkout.Receipt.Document

namespace Checkout.CommandLine

/-- A failure that nothing is said about. -/
inductive Crash
  | unsettable (u : Environment.Unsettable)
  | longNumeral
  | nulInPath
  | reading (f : Csv.Fault)
  deriving DecidableEq, Repr

def Crash.message : Crash → Text
  | .unsettable u => "no variable can be set as the variable file sets " ++ Text.quoted u.name
  | .longNumeral => "a number has more than 4300 digits"
  | .nulInPath => "the path of the price list holds a NUL"
  | .reading .undecodable => "the price list is not UTF-8"
  | .reading .cellTooLong => "the price list has a cell of more than 131072 characters"

inductive Ending
  | exit (status : Nat)
  | crash (c : Crash)
  deriving DecidableEq, Repr

structure Outcome where
  ending : Ending
  out : Text
  err : Text
  log : List Log.Entry
  deriving DecidableEq, Repr

def cannotPrint (reason : Text) : Log.Entry := ⟨.error, "Cannot print receipt: " ++ reason⟩

def invalidSettings (count : Nat) : Log.Entry :=
  ⟨.error, "Invalid settings: " ++ Numeral.natural count ++ " validation " ++
    (if count = 1 then "error" else "errors") ++ " for TillSettings"⟩

def prices (opener : Catalog.Opener) (s : Settings) :
    List Log.Entry × Except Catalog.Error PriceTable :=
  match s.catalog with
  | none => ([], .ok .standard)
  | some path =>
      match Catalog.load opener path with
      | .error e => ([], .error e)
      | .ok p => ([Catalog.loaded p path], .ok p)

def catalogFailure (path : Text) : Catalog.Error → Outcome
  | .file e =>
      match e.message? path with
      | some message => ⟨.exit 2, [], [], [cannotPrint message]⟩
      | none => ⟨.crash .nulInPath, [], [], []⟩
  | .reading f => ⟨.crash (.reading f), [], [], []⟩
  | .content f =>
      ⟨.exit 2, [], [], [cannotPrint (f.report (Files.baseName path)).message]⟩

def scanAll (c : Cart) : List Scan → List Log.Entry × Except Cart.Failure Cart
  | [] => ([], .ok c)
  | s :: scans =>
      match c.add s.item s.quantity with
      | (log, .error e) => (log, .error e)
      | (log, .ok c) =>
          let rest := scanAll c scans
          (log ++ rest.1, rest.2)

/-- The receipt as text or as a document. Nothing is printed unless all of it can be. -/
def printed? (json : Bool) (r : Receipt) : Option Text :=
  if json then r.json?.map (· ++ ['\n']) else r.printed?.map Text.ofLines

def deliver (json : Bool) (log : List Log.Entry) (c : Cart) (prices : PriceTable) : Outcome :=
  match c.receipt prices with
  | (more, r) =>
      match r.bind (printed? json) with
      | some t => ⟨.exit 0, t, [], log ++ more⟩
      | none => ⟨.crash .longNumeral, [], [], log ++ more⟩

def printReceipt (opener : Catalog.Opener) (env : Environment) (a : Arguments) : Outcome :=
  match Settings.load env a.overrides with
  | .error errors => ⟨.exit 2, [], [], [invalidSettings errors.length]⟩
  | .ok s =>
      match prices opener s with
      | (_, .error e) => catalogFailure (s.catalog.getD []) e
      | (loaded, .ok prices) =>
          match scanAll (.ofSettings .standard s) a.scans with
          | (log, .error (.refused r)) =>
              ⟨.exit 2, [], [], loaded ++ log ++ [cannotPrint r.report.message]⟩
          | (log, .error .longNumeral) => ⟨.crash .longNumeral, [], [], loaded ++ log⟩
          | (log, .ok c) => deliver a.json (loaded ++ log) c prices

def answer (opener : Catalog.Opener) (env : Environment) (words : List Text) : Outcome :=
  match parse words with
  | .error e => ⟨.exit 2, [], usage ++ "till: error: " ++ e.message ++ ['\n'], []⟩
  | .ok .help => ⟨.exit 0, help, [], []⟩
  | .ok (.receipt a) => printReceipt opener env a

def run (opener : Catalog.Opener) (env : Environment) (file : Text) (words : List Text) :
    Outcome :=
  match env.withFile file with
  | .error u => ⟨.crash (.unsettable u), [], [], []⟩
  | .ok env => answer opener env words

def catalogPath? (env : Environment) (file : Text) (words : List Text) : Option Text :=
  match env.withFile file, parse words with
  | .ok env, .ok (.receipt a) =>
      match Settings.load env a.overrides with
      | .ok s => s.catalog
      | .error _ => none
  | _, _ => none

end Checkout.CommandLine
