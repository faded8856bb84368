import Checkout.Text

namespace Checkout.CommandLine

def usage : Text := Text.ofLines
  ["usage: till [-h] [--currency CURRENCY] [--format LINE_FORMAT]",
    "            [--prices PRICE_CATALOG] [--consume] [--json]",
    "            [SCAN ...]"]

def help : Text := usage ++ Text.ofLines
  ["",
    "Scan items and print a receipt.",
    "",
    "positional arguments:",
    "  SCAN                  NAME or NAME:QUANTITY, in scan order",
    "",
    "options:",
    "  -h, --help            show this help message and exit",
    "  --currency CURRENCY   Currency code (EUR, USD, RON, ...)",
    "  --format LINE_FORMAT  Line format using <qt>, <pn>, <pc> (or \x7bquantity\x7d,",
    "                        \x7bname\x7d, \x7bprice\x7d)",
    "  --prices PRICE_CATALOG",
    "                        CSV price list with name,price columns",
    "  --consume             Empty the cart once the receipt is printed",
    "  --json                Print the receipt as JSON"]

end Checkout.CommandLine
