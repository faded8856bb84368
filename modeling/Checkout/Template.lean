import Checkout.Report

namespace Checkout.Template

inductive Field
  | quantity
  | name
  | price
  deriving DecidableEq, Repr

inductive Style
  | short
  | long
  deriving DecidableEq, Repr

structure Placeholder where
  field : Field
  style : Style
  deriving DecidableEq, Repr

def Placeholder.token : Placeholder → Text
  | ⟨.quantity, .short⟩ => "<qt>"
  | ⟨.name, .short⟩ => "<pn>"
  | ⟨.price, .short⟩ => "<pc>"
  | ⟨.quantity, .long⟩ => "\x7bquantity\x7d"
  | ⟨.name, .long⟩ => "\x7bname\x7d"
  | ⟨.price, .long⟩ => "\x7bprice\x7d"

def placeholders : List Placeholder :=
  [.short, .long].flatMap fun style => [⟨.quantity, style⟩, ⟨.name, style⟩, ⟨.price, style⟩]

def Placeholder.ofToken? (t : Text) : Option Placeholder := placeholders.find? (·.token == t)

def isNameStart (c : Char) : Bool := c.isAlpha || c == '_'

def isNameChar (c : Char) : Bool := c.isAlphanum || c == '_'

def shaped? : Text → Option Text
  | '<' :: a :: b :: '>' :: _ => if a.isAlpha && b.isAlpha then some ['<', a, b, '>'] else none
  | '\x7b' :: c :: t =>
      if isNameStart c && (t.dropWhile isNameChar).head? == some '\x7d' then
        some ('\x7b' :: c :: (t.takeWhile isNameChar ++ ['\x7d']))
      else none
  | _ => none

structure Unknown where
  token : Text
  position : Nat
  deriving DecidableEq, Repr

def Unknown.wording : Text := "unrecognized placeholder"

def Unknown.report (u : Unknown) (template : Text) : Report :=
  .template Unknown.wording template u.token u.position

def Unknown.message (u : Unknown) : Text := (u.report []).message

inductive Piece
  | char (c : Char)
  | place (p : Placeholder)
  deriving DecidableEq, Repr

/-- Reads a template from left to right. The next `skip` characters belong to the placeholder
read last. -/
def scan (position : Nat) : (skip : Nat) → Text → Except Unknown (List Piece)
  | _, [] => .ok []
  | skip + 1, _ :: t => scan (position + 1) skip t
  | 0, c :: t =>
      match shaped? (c :: t) with
      | none => (scan (position + 1) 0 t).map (.char c :: ·)
      | some token =>
          match Placeholder.ofToken? token with
          | none => .error ⟨token, position⟩
          | some p => (scan (position + 1) (token.length - 1) t).map (.place p :: ·)

def pieces (t : Text) : Except Unknown (List Piece) := scan 0 0 t

structure Values where
  quantity : Text
  name : Text
  price : Text
  deriving DecidableEq, Repr

def Values.of (v : Values) : Field → Text
  | .quantity => v.quantity
  | .name => v.name
  | .price => v.price

def Piece.fill (v : Values) : Piece → Text
  | .char c => [c]
  | .place p => v.of p.field

def standard (v : Values) : Text := v.name ++ " - " ++ v.quantity ++ " - " ++ v.price

def fill (v : Values) : Option Text → Except Unknown Text
  | none => .ok (standard v)
  | some [] => .ok (standard v)
  | some t => (pieces t).map (·.flatMap (Piece.fill v))

def check : Option Text → Except Unknown Unit
  | none => .ok ()
  | some t => (pieces t).map fun _ => ()

end Checkout.Template
