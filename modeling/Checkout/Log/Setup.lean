import Checkout.Environment
import Checkout.Log
import Checkout.Text.Case

namespace Checkout.Log

def Level.number : Level → Nat
  | .debug => 10
  | .info => 20
  | .warning => 30
  | .error => 40
  | .critical => 50

def thresholds : Table Nat :=
  [("CRITICAL", 50), ("FATAL", 50), ("ERROR", 40), ("WARNING", 30), ("WARN", 30), ("INFO", 20),
    ("DEBUG", 10), ("NOTSET", 0)]

def defaultThreshold : Nat := 20

inductive Layout
  | simple
  | timed
  deriving DecidableEq, Repr

def Layout.pattern : Layout → Text
  | .simple => "%(levelname)s - %(name)s - %(message)s"
  | .timed => "%(asctime)s - %(name)s - %(levelname)s - %(message)s"

def Layout.line (layout : Layout) (time source : Text) (e : Entry) : Text :=
  match layout with
  | .simple => e.level.name ++ " - " ++ source ++ " - " ++ e.message ++ ['\n']
  | .timed => time ++ " - " ++ source ++ " - " ++ e.level.name ++ " - " ++ e.message ++ ['\n']

structure Setup where
  threshold : Nat
  layout : Option Layout
  deriving DecidableEq, Repr

def thresholdOf (env : Environment) : Nat :=
  (thresholds.get? (Text.capitals ((env.get? "LOG_LEVEL").getD "INFO"))).getD defaultThreshold

def layoutOf (env : Environment) : Layout :=
  if env.get? "TILL_LOG_SIMPLE" = some ['1'] then .simple else .timed

/-- A log that somebody else shows already is left to them. -/
def Setup.ofEnvironment (env : Environment) (shown : Bool) : Setup :=
  if shown then ⟨defaultThreshold, none⟩ else ⟨thresholdOf env, some (layoutOf env)⟩

def sourceName (source : Text) : Text := if source = [] then "root" else source

def Setup.show (s : Setup) (time source : Text) (e : Entry) : Text :=
  match s.layout with
  | none => []
  | some layout =>
      if s.threshold ≤ e.level.number then layout.line time (sourceName source) e else []

end Checkout.Log
