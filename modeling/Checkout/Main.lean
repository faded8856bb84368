import Checkout.CommandLine
import Checkout.Log.Setup
import Std.Time

namespace Checkout.Main

def variableNames : List Text :=
  ["TILL_CURRENCY", "TILL_LINE_FORMAT", "TILL_CONSUME_ON_RECEIPT", "TILL_PRICE_CATALOG",
    "LOG_LEVEL", "TILL_LOG_SIMPLE"]

def readVariables (names : List Text) : IO Environment :=
  names.eraseDups.filterMapM fun name => do
    if name.contains '\x00' then return none
    return (← IO.getEnv (String.ofList name)).map fun value => (name, value.toList)

def readVariableFile : IO Text := do
  try
    return (← IO.FS.readFile ".env").toList
  catch _ => return []

/-- Some error numbers come negated, as 32 bits. -/
def openError? (e : IO.Error) : Option Files.OpenError :=
  let ofNumber (code : UInt32) : Option Files.OpenError :=
    match min code.toNat (UInt32.size - code.toNat) with
    | 2 => some .notFound
    | 13 => some .denied
    | 20 => some .notDirectory
    | 21 => some .isDirectory
    | 36 => some .nameTooLong
    | _ => none
  match e with
  | .noFileOrDirectory _ code _ => ofNumber code
  | .permissionDenied _ code _ => ofNumber code
  | .inappropriateType _ code _ => ofNumber code
  | .invalidArgument _ code _ => ofNumber code
  | _ => none

def readCatalog (path : Text) : IO (Except Files.OpenError (List UInt8)) := do
  if path.contains '\x00' then return .error .nulInPath
  try
    return .ok (← IO.FS.readBinFile (String.ofList path)).toList
  catch e =>
    match openError? e with
    | some found => return .error found
    | none => throw e

def timeStamp : IO Text := do
  return ((← Std.Time.PlainDateTime.now).format "uuuu-MM-dd HH:mm:ss,SSS").toList

end Checkout.Main

open Checkout Checkout.Main in
def main (args : List String) : IO UInt32 := do
  let file ← readVariableFile
  let env ← readVariables (variableNames ++ Environment.consulted file)
  let setup := Log.Setup.ofEnvironment env false
  let words := args.map String.toList
  let catalog ← match CommandLine.catalogPath? env file words with
    | some path => readCatalog path
    | none => pure (.error .notFound)
  let outcome := CommandLine.run (fun _ => catalog) env file words
  for entry in outcome.log do
    IO.eprint (String.ofList (setup.show (← timeStamp) "till".toList entry))
  IO.eprint (String.ofList outcome.err)
  IO.print (String.ofList outcome.out)
  match outcome.ending with
  | .exit status => return UInt32.ofNat status
  | .crash c =>
      IO.eprintln (String.ofList c.message)
      return 1
