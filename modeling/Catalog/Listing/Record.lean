import Catalog.Json.Record
import Catalog.Listing.Filter

namespace Catalog.Filter

def ofJson? (v : Json) : Option Filter := do
  let [search, limit, offset] ← v.fields? ["search", "limit", "offset"] true | none
  return {
    search := ← Json.optional? Json.text? search
    limit := ← Json.optional? Json.text? limit
    offset := ← Json.optional? Json.text? offset }

def toJson (f : Filter) : Json :=
  let value (s : Option String) : Json := (s.map .text).getD .null
  .ofMembers [("search", value f.search), ("limit", value f.limit), ("offset", value f.offset)]

end Catalog.Filter
