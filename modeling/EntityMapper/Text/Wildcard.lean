/-!
# Wildcards

The patterns of the operator `$like`: `*` and `%` stand for any run of characters, `_` for one, and
every other character for itself. No wildcard stands for a newline. A pattern is matched by the regular
expression of the same meaning.
-/

namespace EntityMapper.Text.Wildcard

/-- What one character of a pattern stands for. -/
inductive Token where
  | anyRun
  | anyOne
  | exactly (c : Char)
deriving DecidableEq, Repr

def token (c : Char) : Token :=
  if c = '*' ∨ c = '%' then .anyRun else if c = '_' then .anyOne else .exactly c

/-- Characters that have a meaning of their own in regular expressions and are escaped. -/
def metaChars : List Char :=
  ['\\', '.', '+', '*', '?', '(', ')', '|', '[', ']', '{', '}', '^', '$', '#', '&', '-', '~']

def Token.expression : Token → List Char
  | .anyRun => ['.', '*']
  | .anyOne => ['.']
  | .exactly c => if c ∈ metaChars then ['\\', c] else [c]

/-- The tokens up to the end of the text. -/
def expressionRest (ts : List Token) : List Char := ts.flatMap Token.expression ++ ['$']

/-- The regular expression of a pattern with wildcards. -/
def expression (pattern : String) : String :=
  String.ofList ('^' :: expressionRest (pattern.toList.map token))

end EntityMapper.Text.Wildcard
