import Checkout.Environment.Entry
import Checkout.Environment.Reference
import Checkout.Table

namespace Checkout

abbrev Environment := Table Text

namespace Environment

/-- What a reference to a name stands for. A variable that is set wins over the entries of a file,
and an entry that is set to nothing is empty. -/
def referent? (env : Environment) (found : Table (Option Text)) (name : Text) : Option Text :=
  (env.get? name).or ((found.get? name).map (·.getD []))

/-- The last entry of each name, its references replaced. References are to what stands before. -/
def resolve (env : Environment) (entries : List Entry) : Table (Option Text) :=
  entries.foldl
    (fun found e => found.insert e.name (e.value.map (expand (env.referent? found)))) []

structure Unsettable where
  name : Text
  deriving DecidableEq, Repr

def isSettable (name value : Text) : Bool :=
  !name.contains '=' && !name.contains '\x00' && !value.contains '\x00'

def fillIn (env : Environment) : Text × Option Text → Except Unsettable Environment
  | (_, none) => .ok env
  | (name, some v) =>
      if (env.get? name).isSome then .ok env
      else if isSettable name v then .ok (Table.insert name v env)
      else .error ⟨name⟩

def fileSwitch : Text := "PYTHON_DOTENV_DISABLED"

def fileSwitchWords : List String := ["1", "true", "t", "yes", "y"]

def ignoresFile (env : Environment) : Bool :=
  (env.get? fileSwitch).any fun t => fileSwitchWords.any (Text.isFoldedWord · t)

def withFile (env : Environment) (file : Text) : Except Unsettable Environment :=
  if env.ignoresFile then .ok env else (env.resolve (entries file)).foldlM fillIn env

def consulted (file : Text) : List Text :=
  fileSwitch :: (entries file).flatMap fun e => e.name :: referred (e.value.getD [])

end Environment

end Checkout
