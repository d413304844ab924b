namespace Catalog.Text

/-- The parts of a text between the places where a character stands. -/
def splitAt (mark : Char) : List Char → List (List Char)
  | [] => [[]]
  | c :: cs =>
    if c = mark then [] :: splitAt mark cs
    else
      match splitAt mark cs with
      | [] => [[c]]
      | p :: ps => (c :: p) :: ps

end Catalog.Text
