import Checkout.Main
import Checkout.Proofs.Consecutive
import Checkout.Proofs.Conservation
import Checkout.Proofs.Erasure
import Checkout.Proofs.Interchange
import Checkout.Proofs.Interleaving
import Checkout.Proofs.LineFormat
import Checkout.Proofs.LogText
import Checkout.Proofs.PriceList
import Checkout.Proofs.Printing
import Checkout.Proofs.Reading
import Checkout.Proofs.Reformatting
import Checkout.Proofs.Renditions
import Checkout.Proofs.Seam
import Checkout.Register
import Checkout.Proofs.Literal
import Checkout.Proofs.ScanWord
import Checkout.Proofs.Decimal
import Checkout.Proofs.Exact
import Checkout.Proofs.Named
import Checkout.Proofs.FirstLine
import Checkout.Proofs.Titles
import Checkout.Proofs.Nonnegative
import Checkout.Proofs.LongTotals
import Checkout.Proofs.CurrencySymbol
import Checkout.Proofs.Places
import Checkout.Proofs.Sanitizing
import Checkout.Proofs.Spelling
