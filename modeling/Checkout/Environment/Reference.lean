import Checkout.Text

namespace Checkout.Environment

structure Reference where
  name : Text
  fallback : Text
  deriving DecidableEq, Repr

namespace Reference

def isNameChar (c : Char) : Bool := c != '\x7d' && c != ':'

def read? : Text → Option (Reference × Text)
  | '$' :: '\x7b' :: t =>
      match t.dropWhile isNameChar with
      | '\x7d' :: rest => some (⟨t.takeWhile isNameChar, []⟩, rest)
      | ':' :: '-' :: u =>
          (Text.splitFirst '\x7d' u).map fun (fallback, rest) =>
            (⟨t.takeWhile isNameChar, fallback⟩, rest)
      | _ => none
  | _ => none

def value (lookup : Text → Option Text) (r : Reference) : Text := (lookup r.name).getD r.fallback

end Reference

inductive Piece
  | char (c : Char)
  | place (r : Reference)
  deriving DecidableEq, Repr

/-- Reads a value from left to right. The next `skip` characters belong to the reference read
last. -/
def scan : (skip : Nat) → Text → List Piece
  | _, [] => []
  | skip + 1, _ :: t => scan skip t
  | 0, c :: t =>
      match Reference.read? (c :: t) with
      | none => .char c :: scan 0 t
      | some (r, rest) => .place r :: scan (t.length - rest.length) t

def Piece.fill (lookup : Text → Option Text) : Piece → Text
  | .char c => [c]
  | .place r => r.value lookup

def Piece.name? : Piece → Option Text
  | .char _ => none
  | .place r => some r.name

/-- What is put in is not read again. -/
def expand (lookup : Text → Option Text) (t : Text) : Text :=
  (scan 0 t).flatMap (Piece.fill lookup)

def referred (t : Text) : List Text := (scan 0 t).filterMap Piece.name?

end Checkout.Environment
