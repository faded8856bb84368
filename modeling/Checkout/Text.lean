namespace Checkout

/-- A text is the list of its code points: lengths, positions and cuts count code points. -/
abbrev Text := List Char

instance : Coe String Text := ⟨String.toList⟩

namespace Text

def isBlank (c : Char) : Bool :=
  let n := c.toNat
  (0x09 ≤ n && n ≤ 0x0D) || (0x1C ≤ n && n ≤ 0x20) || n == 0x85 || n == 0xA0 || n == 0x1680 ||
    (0x2000 ≤ n && n ≤ 0x200A) || n == 0x2028 || n == 0x2029 || n == 0x202F || n == 0x205F ||
    n == 0x3000

def trim (p : Char → Bool) (t : Text) : Text :=
  ((t.dropWhile p).reverse.dropWhile p).reverse

def strip (t : Text) : Text := trim isBlank t

/-- Whether a text is a word of small letters, written in any case. Capitals outside ASCII need
no care: the only one with a small form in ASCII is the Kelvin sign, and no word asked for here
has a k. -/
def isWord (word : String) (t : Text) : Bool := t.map Char.toLower == word.toList

def isFoldedWord (word : String) (t : Text) : Bool :=
  isWord word (t.map fun c => if c = 'ſ' then 's' else c)

def splitLast (c : Char) (t : Text) : Option (Text × Text) :=
  let tail := t.reverse.takeWhile (· != c)
  match t.reverse.dropWhile (· != c) with
  | [] => none
  | _ :: front => some (front.reverse, tail.reverse)

def splitFirst (c : Char) (t : Text) : Option (Text × Text) :=
  match t.dropWhile (· != c) with
  | [] => none
  | _ :: back => some (t.takeWhile (· != c), back)

def splitAll (p : Char → Bool) : Text → List Text
  | [] => [[]]
  | c :: t =>
      if p c then [] :: splitAll p t
      else match splitAll p t with
        | [] => [[c]]
        | part :: parts => (c :: part) :: parts

def joined (sep : Text) (parts : List Text) : Text := sep.intercalate parts

def ofLines (parts : List Text) : Text := parts.flatMap (· ++ ['\n'])

end Text

end Checkout
