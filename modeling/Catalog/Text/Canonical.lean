import Catalog.Text.CombiningClass
import Catalog.Text.Composite

namespace Catalog.Text

def partsWithin : Nat → Char → List Char
  | 0, c => [c]
  | n + 1, c =>
    match parts? c with
    | some (first, second) => partsWithin n first ++ [second]
    | none => [c]

/-- The parts of a character. The second of two has no parts, and the first can be taken apart at most
twice more. -/
def decomposed : Char → List Char := partsWithin 3

/-- Puts a character at the end of a text whose last character comes first here. A mark passes the marks
of a higher class. -/
def settle (c : Char) : List Char → List Char
  | [] => [c]
  | d :: ds =>
    if 0 < combiningClass c ∧ combiningClass c < combiningClass d then d :: settle c ds
    else c :: d :: ds

/-- A text with its marks in the order of their classes, those of one class in the order they had. -/
def ordered (cs : List Char) : List Char :=
  (cs.foldl (fun ds c => settle c ds) []).reverse

/-- A text that starts with `base`, the marks in `between`, last one first, and then `rest`, after each
character that reaches the base has been made one with it. A mark of the same or a higher class in
between is in the way. -/
def composedAt (base : Char) (between : List Char) : List Char → List Char
  | [] => base :: between.reverse
  | c :: rest =>
    let joined? :=
      if between.all fun d => combiningClass d < combiningClass c then composite? base c else none
    match joined? with
    | some joined => composedAt joined between rest
    | none =>
      if combiningClass c = 0 then base :: between.reverse ++ composedAt c [] rest
      else composedAt base (c :: between) rest

def composed : List Char → List Char
  | [] => []
  | c :: cs => if combiningClass c = 0 then composedAt c [] cs else c :: composed cs

def canonical (cs : List Char) : List Char := composed (ordered (cs.flatMap decomposed))

end Catalog.Text
