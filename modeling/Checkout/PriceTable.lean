import Checkout.Table

namespace Checkout

abbrev PriceTable := Table (Option Int)

namespace PriceTable

def price (p : PriceTable) (item : Text) : Int := ((p.get? item).getD none).getD 0

def standard : PriceTable := [("apple", some 100), ("banana", some 200)]

end PriceTable

end Checkout
