import Checkout.Numeral
import Checkout.Text.Quoted

namespace Checkout

inductive Report
  | quantity (wording : Text) (item : Text) (quantity : Int)
  | template (wording : Text) (template token : Text) (position : Int)
  | catalog (wording : Text) (source : Option Text) (row : Option Int)
  | general (wording : Text) (code : Option Text)
  deriving DecidableEq, Repr

namespace Report

def place : Option Text → Option Int → Text
  | none, _ => []
  | some source, none => " (" ++ source ++ ")"
  | some source, some row => " (" ++ source ++ ", row " ++ Numeral.text row ++ ")"

def message : Report → Text
  | .quantity wording _ _ => wording
  | .template wording _ token position =>
      wording ++ ": " ++ Text.quoted token ++ " at index " ++ Numeral.text position
  | .catalog wording source row => wording ++ place source row
  | .general wording _ => wording

def code : Report → Option Text
  | .quantity .. => some "INVALID_QUANTITY"
  | .template .. => some "INVALID_TEMPLATE"
  | .catalog .. => some "INVALID_CATALOG"
  | .general _ code => code

end Report

end Checkout
