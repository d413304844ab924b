import Catalog.DomainName.Label
import Catalog.Text.Split

namespace Catalog.DomainName

/-- Characters that may not stand in a name: controls, blanks, and those with a use of their own in
addresses. -/
def isForbidden (c : Char) : Bool :=
  c ≤ ' ' || c == '\x7f' || "%#/:<>?@[\\]^|".toList.contains c

/-- Whether some character is written from right to left, or belongs to a number that is. -/
def needsDirection (labels : List Label) : Bool :=
  labels.any fun label => label.any fun c =>
    Text.direction c == .right || Text.direction c == .arabic

def labels? (text : List Char) : Option (List Label) := do
  let folded ← text.mapM fold?
  let labels ← (Text.splitAt '.' (Text.canonical folded.flatten)).mapM Label.decoded?
  if labels.all Label.isProper ∧ (needsDirection labels → labels.all Label.hasOneDirection) ∧
      ¬labels.any fun label => label.any isForbidden then some labels
  else none

end Catalog.DomainName
