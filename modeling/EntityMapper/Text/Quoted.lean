/-!
# Quoted names

A name in SQL text stands between double quotes, and a double quote inside it is written twice.
`read` takes such a name from the front of a text.
-/

namespace EntityMapper.Text.Quoted

/-- The characters of a name with each quote doubled. -/
def escape : List Char → List Char
  | [] => []
  | c :: cs => if c = '"' then '"' :: '"' :: escape cs else c :: escape cs

def quote (name : String) : String := String.ofList ('"' :: escape name.toList ++ ['"'])

/-- Reads up to the closing quote: a doubled quote is one character of the name. -/
def readRest : List Char → Option (List Char × List Char)
  | [] => none
  | ['"'] => some ([], [])
  | '"' :: '"' :: rest => (readRest rest).map fun (name, after) => ('"' :: name, after)
  | c :: rest =>
    if c = '"' then some ([], rest) else (readRest rest).map fun (name, after) => (c :: name, after)

/-- Takes a quoted name from the front of a text and leaves the rest. -/
def read : List Char → Option (List Char × List Char)
  | '"' :: rest => readRest rest
  | _ => none

end EntityMapper.Text.Quoted
