import EntityMapper.Json.Basic
import EntityMapper.Double.Shortest
import EntityMapper.Text.Decimal
import EntityMapper.Text.Hex

/-!
# Compact JSON text

No blanks; members in the order of their keys; in strings only the quote, the backslash and the
characters below U+0020 are escaped.
-/

namespace EntityMapper.Json

/-- A binary64 number always shows that it is none of the integers: it has a fraction or an
exponent. Its text is positional from 1e-5 up to 1e16. -/
def floatLayout : Double.Layout := { positional := some (-5, 16), pointZero := true }

/-- A character as it stands inside a string. -/
def escapeChar (c : Char) : List Char :=
  if c = '"' then ['\\', '"']
  else if c = '\\' then ['\\', '\\']
  else if c = '\n' then ['\\', 'n']
  else if c = '\r' then ['\\', 'r']
  else if c = '\t' then ['\\', 't']
  else if c = '\x08' then ['\\', 'b']
  else if c = '\x0c' then ['\\', 'f']
  else if c.toNat < 0x20 then
    ['\\', 'u', '0', '0', Text.Hex.digit (c.toNat / 16), Text.Hex.digit (c.toNat % 16)]
  else [c]

def stringChars (s : String) : List Char := '"' :: (s.toList.flatMap escapeChar ++ ['"'])

mutual
/-- The compact text of a value. -/
def chars : Json → List Char
  | .null => ['n', 'u', 'l', 'l']
  | .bool true => ['t', 'r', 'u', 'e']
  | .bool false => ['f', 'a', 'l', 's', 'e']
  | .int n => Text.Decimal.ofInt n
  | .float x => floatLayout.text x
  | .str s => stringChars s
  | .arr [] => ['[', ']']
  | .arr (x :: xs) => '[' :: (chars x ++ itemChars xs)
  | .obj [] => ['{', '}']
  | .obj ((k, x) :: xs) => '{' :: (stringChars k ++ ':' :: (chars x ++ memberChars xs))

/-- The further items of an array and its end. -/
def itemChars : List Json → List Char
  | [] => [']']
  | x :: xs => ',' :: (chars x ++ itemChars xs)

/-- The further members of an object and its end. -/
def memberChars : List (String × Json) → List Char
  | [] => ['}']
  | (k, x) :: xs => ',' :: (stringChars k ++ ':' :: (chars x ++ memberChars xs))
end

def compact (j : Json) : String := String.ofList j.chars

end EntityMapper.Json
