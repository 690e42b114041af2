import SqlToolkit.Description.Value
import SqlToolkit.Query.Bindings
import SqlToolkit.Query.Page
/-!
Pages and bindings written as documents.
-/

namespace SqlToolkit

open Document

/-- All buckets by name, with the number of the values in them. -/
def Bindings.toDocument (bindings : Bindings) : Document :=
  let bucket (bucket : Bucket) := (bucket.name, ofList Value.toDocument (bindings.get bucket))
  .table [("empty", bindings.isEmpty), ("len", bindings.size),
    ("values", .table (Bucket.all.map bucket))]

def CountedPage.toDocument (page : CountedPage) : Document :=
  .table [("current_page", page.current), ("empty", page.isEmpty),
    ("items", ofList Row.toDocument page.items), ("last_page", page.last), ("more", page.hasMore),
    ("per_page", page.perPage), ("total", page.total)]

def PeekedPage.toDocument (page : PeekedPage) : Document :=
  .table [("current_page", page.current), ("has_more", page.hasMore),
    ("items", ofList Row.toDocument page.items), ("per_page", page.perPage)]

end SqlToolkit
