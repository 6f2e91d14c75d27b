namespace AssetRegistry.Query

/-- The window of a list: how many rows at most, and how many are skipped before them. -/
structure Page where
  limit : Int64
  offset : Int64
  deriving DecidableEq, Repr

/-- The number of 64 bits nearest to a whole number. -/
def saturate (n : Int) : Int64 := Int64.ofInt (max Int64.minValue.toInt (min Int64.maxValue.toInt n))

namespace Page

/-- The number of rows on a page: the requested one where it is from 1 to `most`, else the usual one. -/
def chooseLimit (requested : Option Int64) (usual most : Int64) : Int64 :=
  match requested with
  | some limit => if 1 ≤ limit && limit ≤ most then limit else usual
  | none => usual

/-- The window of a page. Pages are counted from 1, and what lies before the first page is the first page. The offset
ends at the greatest number of 64 bits. -/
def new (page limit : Option Int64) (usual most : Int64) : Page :=
  let limit := chooseLimit limit usual most
  let page := max (page.getD 1) 1
  { limit, offset := saturate ((page.toInt - 1) * limit.toInt) }

end Page

end AssetRegistry.Query
