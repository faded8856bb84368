import Checkout.Text.Quoted

namespace Checkout.Files

inductive OpenError
  | notFound
  | isDirectory
  | notDirectory
  | nameTooLong
  | denied
  | nulInPath
  deriving DecidableEq, Repr

/-- The number and the wording of the operating system. A path with a NUL never gets there. -/
def OpenError.reason? : OpenError → Option Text
  | .notFound => some "[Errno 2] No such file or directory"
  | .isDirectory => some "[Errno 21] Is a directory"
  | .notDirectory => some "[Errno 20] Not a directory"
  | .nameTooLong => some "[Errno 36] File name too long"
  | .denied => some "[Errno 13] Permission denied"
  | .nulInPath => none

def OpenError.message? (e : OpenError) (path : Text) : Option Text :=
  e.reason?.map (· ++ ": " ++ Text.quoted path)

abbrev Path := List Text

def components (path : Text) : Path := Text.splitAll (· == '/') path

def baseName (path : Text) : Text := (path.reverse.takeWhile (· != '/')).reverse

structure Tree where
  files : List (Path × List UInt8)
  directories : List Path
  deriving DecidableEq, Repr

def Tree.empty : Tree := ⟨[], []⟩

def advance (p : Path) (name : Text) : Path :=
  if name = ['.', '.'] then p.dropLast else p ++ [name]

def passed (p : Path) : Path → List Path
  | [] => []
  | [_] => []
  | name :: names => advance p name :: passed (advance p name) names

def moves (name : Text) : Path := (components name).filter fun c => c != [] && c != ['.']

def Tree.write (t : Tree) (name : Text) (bytes : List UInt8) : Tree :=
  ⟨((moves name).foldl advance [], bytes) :: t.files, passed [] (moves name) ++ t.directories⟩

def Tree.ofFiles (files : List (Text × List UInt8)) : Tree :=
  files.foldl (fun t f => t.write f.1 f.2) .empty

inductive Place
  | above
  | directory (at_ : Path)
  | file (bytes : List UInt8)
  deriving DecidableEq, Repr

def Tree.isDirectory (t : Tree) (p : Path) : Bool := t.directories.contains p

def maxNameBytes : Nat := 255

def byteCount (t : Text) : Nat := t.foldr (fun c n => c.utf8Size + n) 0

def Tree.enter (t : Tree) (name : Text) : Place → Except OpenError Place
  | .file _ => .error .notDirectory
  | .above =>
      if name = [] ∨ name = ['.'] ∨ name = ['.', '.'] then .ok .above
      else if maxNameBytes < byteCount name then .error .nameTooLong
      else .error .notFound
  | .directory p =>
      if name = [] ∨ name = ['.'] then .ok (.directory p)
      else if name = ['.', '.'] then
        if p = [] then .ok .above else .ok (.directory p.dropLast)
      else if maxNameBytes < byteCount name then .error .nameTooLong
      else
        match t.files.lookup (p ++ [name]) with
        | some bytes => .ok (.file bytes)
        | none =>
            if t.isDirectory (p ++ [name]) then .ok (.directory (p ++ [name]))
            else .error .notFound

def Tree.walk (t : Tree) : Place → Path → Except OpenError Place
  | place, [] => .ok place
  | place, name :: names =>
      match t.enter name place with
      | .error e => .error e
      | .ok next => t.walk next names

def maxPathBytes : Nat := 4095

def Tree.open? (t : Tree) (path : Text) : Except OpenError (List UInt8) :=
  if path.contains '\x00' then .error .nulInPath
  else if path = [] then .error .notFound
  else if maxPathBytes < byteCount path then .error .nameTooLong
  else
    let start := if path.head? = some '/' then Place.above else .directory []
    match t.walk start (components path) with
    | .error e => .error e
    | .ok (.file bytes) => .ok bytes
    | .ok _ => .error .isDirectory

end Checkout.Files
