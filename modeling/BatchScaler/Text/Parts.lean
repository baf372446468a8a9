
namespace BatchScaler.Text

def partsBetween (mark : Char) : List Char → List (List Char)
  | [] => [[]]
  | c :: rest =>
    if c = mark then [] :: partsBetween mark rest
    else
      match partsBetween mark rest with
      | [] => [[c]]
      | part :: parts => (c :: part) :: parts

/-- The part after the last occurrence of a character, the whole text if there is none. -/
def afterLast (mark : Char) (cs : List Char) : List Char :=
  (cs.reverse.takeWhile (· != mark)).reverse

end BatchScaler.Text
