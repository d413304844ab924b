import Catalog.Decimal
import Catalog.Failure
import Catalog.Listing.Filter
import Catalog.Text.Blank
import Catalog.Text.Quoted

namespace Catalog.Filter

def invalidCount (field : Field) (raw : String) : Failure :=
  .badRequest s!"{field.name} must be a non-negative integer, got {Text.quoted raw}"

/-- The number of rows written by the text of a field, with blanks allowed around it. -/
def count? (raw : String) : Option Int64 :=
  (Decimal.int64? (Text.trim raw)).filter fun n => 0 ≤ n

def parseCount (field : Field) (raw : String) : Except Failure Int64 :=
  match count? raw with
  | some n => .ok n
  | none => .error (invalidCount field raw)

end Catalog.Filter
