/-!
# Splitting text

Text before and after a separator, and the pieces between all separators.
-/

namespace EntityMapper.Text

/-- The text before and after the first `sep`, when there is one. -/
def cut (sep : Char) : List Char → Option (List Char × List Char)
  | [] => none
  | c :: cs => if c = sep then some ([], cs) else (cut sep cs).map fun (a, b) => (c :: a, b)

/-- The two sides of the first dot. -/
def splitDot (s : String) : Option (String × String) :=
  (cut '.' s.toList).map fun (a, b) => (String.ofList a, String.ofList b)

/-- The pieces between the separators; one more than there are separators. -/
def pieces (sep : Char) : List Char → List (List Char)
  | [] => [[]]
  | c :: cs =>
    if c = sep then [] :: pieces sep cs
    else
      match pieces sep cs with
      | [] => [[c]]
      | piece :: more => (c :: piece) :: more

def split (sep : Char) (s : String) : List String := (pieces sep s.toList).map String.ofList

end EntityMapper.Text
