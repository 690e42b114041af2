import SqlToolkit.Number.Integer
import SqlToolkit.Row
/-!
Pages of a result: with the total known, and with no more than the knowledge that a next page
exists.
-/

namespace SqlToolkit

/-- One page of a result whose number of rows is known. -/
structure CountedPage where
  items : List Row
  total : Nat
  perPage : Nat
  current : Nat
  last : Nat

namespace CountedPage

/-- Pages count from one, and an empty result has one page too. -/
def make (items : List Row) (total perPage current : Nat) : CountedPage where
  items
  total
  perPage
  current := max current 1
  last := if perPage = 0 then 1 else max ((total + perPage - 1) / perPage) 1

def hasMore (page : CountedPage) : Bool :=
  page.current < page.last

def isEmpty (page : CountedPage) : Bool :=
  page.items.isEmpty

end CountedPage

/-- One page of a result that was read one row further than the page is long. -/
structure PeekedPage where
  items : List Row
  perPage : Nat
  current : Nat
  hasMore : Bool

/-- Drops the row beyond the page, which shows that there are more. -/
def PeekedPage.make (items : List Row) (perPage current : Nat) : PeekedPage where
  items := items.take perPage
  perPage
  current := max current 1
  hasMore := perPage < items.length

end SqlToolkit
