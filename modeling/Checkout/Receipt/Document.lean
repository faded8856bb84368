import Checkout.Json
import Checkout.Receipt

namespace Checkout.Receipt

def number? (n : Int) : Option Json := (Numeral.write? n).map .number

def Line.document? (l : Line) : Option Json := do
  let quantity ← number? l.quantity
  let unitPrice ← number? l.unitPrice
  let total ← number? l.total
  return .object [("item_id", .text l.item), ("quantity", quantity), ("unit_price", unitPrice),
    ("line_total", total), ("text", .text l.text), ("rendered", .flag l.rendered)]

def document? (r : Receipt) : Option Json := do
  let lines ← r.lines.mapM Line.document?
  let total ← number? r.total
  let formatted ← r.formatted?
  return .object [("currency_symbol", .text r.symbol), ("lines", .array lines), ("total", total),
    ("total_formatted", .text formatted)]

def json? (r : Receipt) : Option Text := r.document?.map (Json.render 0)

end Checkout.Receipt
