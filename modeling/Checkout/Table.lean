import Checkout.Text

namespace Checkout

/-- Values by name, in the order in which the names came first. -/
abbrev Table (α : Type) := List (Text × α)

namespace Table

variable {α : Type}

def get? (t : Table α) (name : Text) : Option α := List.lookup name t

def names (t : Table α) : List Text := t.map (·.1)

def insert (name : Text) (v : α) : Table α → Table α
  | [] => [(name, v)]
  | e :: t => if e.1 = name then (name, v) :: t else e :: insert name v t

def erase (t : Table α) (name : Text) : Table α := t.filter (·.1 ≠ name)

def ofEntries (entries : List (Text × α)) : Table α :=
  entries.foldl (fun t e => insert e.1 e.2 t) []

end Table

end Checkout
