import Checkout.Text.Quoted

namespace Checkout

inductive Json
  | text (t : Text)
  | number (numeral : Text)
  | flag (b : Bool)
  | array (elements : List Json)
  | object (members : List (Text × Json))

namespace Json

/-- Characters beyond ASCII are written as they are. -/
def escapeChar (c : Char) : Text :=
  if c = '"' ∨ c = '\\' then ['\\', c]
  else if c = '\n' then "\\n"
  else if c = '\r' then "\\r"
  else if c = '\t' then "\\t"
  else if c = '\x08' then "\\b"
  else if c = '\x0C' then "\\f"
  else if c.toNat < 0x20 then "\\u" ++ Text.hex 4 c.toNat
  else [c]

def quote (t : Text) : Text := '"' :: (t.flatMap escapeChar ++ ['"'])

def newline (depth : Nat) : Text := '\n' :: List.replicate (2 * depth) ' '

def block (opening closing : Char) (depth : Nat) : List Text → Text
  | [] => [opening, closing]
  | parts =>
      opening :: newline (depth + 1) ++ Text.joined (',' :: newline (depth + 1)) parts ++
        newline depth ++ [closing]

mutual

def render (depth : Nat) : Json → Text
  | .text t => quote t
  | .number numeral => numeral
  | .flag true => "true"
  | .flag false => "false"
  | .array elements => block '[' ']' depth (renderAll (depth + 1) elements)
  | .object members => block '\x7b' '\x7d' depth (renderMembers (depth + 1) members)

def renderAll (depth : Nat) : List Json → List Text
  | [] => []
  | j :: js => render depth j :: renderAll depth js

def renderMembers (depth : Nat) : List (Text × Json) → List Text
  | [] => []
  | (name, j) :: members => (quote name ++ ": " ++ render depth j) :: renderMembers depth members

end

end Json

end Checkout
