import EntityMapper.Json.Number
import EntityMapper.Text.Hex

/-!
# Reading JSON text

Strict JSON: nothing but blanks around the value, no control characters in strings, no escaped half
of a surrogate pair. Arrays and objects may nest up to a given depth.
-/

namespace EntityMapper.Json

/-- The blanks of JSON: space, newline, carriage return and tab. -/
def isSpace (c : Char) : Bool := c == ' ' || c == '\n' || c == '\r' || c == '\t'

def skipSpace (cs : List Char) : List Char := cs.dropWhile isSpace

/-- The character an escape of one letter stands for. -/
def simpleEscape? : Char → Option Char
  | '"' => some '"'
  | '\\' => some '\\'
  | '/' => some '/'
  | 'b' => some '\x08'
  | 'f' => some '\x0c'
  | 'n' => some '\n'
  | 'r' => some '\r'
  | 't' => some '\t'
  | _ => none

/-- The value of four hexadecimal digits. -/
def hex4? (a b c d : Char) : Option Nat := do
  return 4096 * (← Text.Hex.digit? a) + 256 * (← Text.Hex.digit? b) + 16 * (← Text.Hex.digit? c)
    + (← Text.Hex.digit? d)

/-- The character of the two halves of a surrogate pair. -/
def surrogatePair (high low : Nat) : Char :=
  Char.ofNat (0x10000 + (high - 0xD800) * 1024 + (low - 0xDC00))

/-- The characters of a string up to its closing quote. `high` is the first half of a surrogate pair
just read; only the second half may follow it. -/
def stringRest : Option Nat → List Char → Option (List Char × List Char)
  | _, [] => none
  | high, '\\' :: rest =>
    match rest with
    | 'u' :: a :: b :: c :: d :: more =>
      match hex4? a b c d, high with
      | none, _ => none
      | some n, some h =>
        if 0xDC00 ≤ n ∧ n ≤ 0xDFFF then
          (stringRest none more).map fun (cs, after) => (surrogatePair h n :: cs, after)
        else none
      | some n, none =>
        if 0xD800 ≤ n ∧ n ≤ 0xDBFF then stringRest (some n) more
        else if 0xDC00 ≤ n ∧ n ≤ 0xDFFF then none
        else (stringRest none more).map fun (cs, after) => (Char.ofNat n :: cs, after)
    | e :: more =>
      match simpleEscape? e, high with
      | some c, none => (stringRest none more).map fun (cs, after) => (c :: cs, after)
      | _, _ => none
    | [] => none
  | some _, _ :: _ => none
  | none, c :: rest =>
    if c = '"' then some ([], rest)
    else if c.toNat < 0x20 then none
    else (stringRest none rest).map fun (cs, after) => (c :: cs, after)

/-- A string in quotes, taken from the front of a text. -/
def string? : List Char → Option (String × List Char)
  | '"' :: rest => (stringRest none rest).map fun (cs, after) => (String.ofList cs, after)
  | _ => none

mutual
/-- A value taken from the front of a text. `depth` arrays and objects may still be opened; `fuel`
bounds the number of values and is never used up when it is the length of the text. -/
def value? : Nat → Nat → List Char → Option (Json × List Char)
  | 0, _, _ => none
  | fuel + 1, depth, cs =>
    match skipSpace cs with
    | 'n' :: 'u' :: 'l' :: 'l' :: rest => some (.null, rest)
    | 't' :: 'r' :: 'u' :: 'e' :: rest => some (.bool true, rest)
    | 'f' :: 'a' :: 'l' :: 's' :: 'e' :: rest => some (.bool false, rest)
    | '[' :: rest =>
      match depth with
      | 0 => none
      | depth + 1 =>
        match skipSpace rest with
        | ']' :: after => some (.arr [], after)
        | _ => (items? fuel depth rest).map fun (xs, after) => (.arr xs, after)
    | '{' :: rest =>
      match depth with
      | 0 => none
      | depth + 1 =>
        match skipSpace rest with
        | '}' :: after => some (.obj [], after)
        | _ => (members? fuel depth rest).map fun (xs, after) => (.obj (Dict.ofList xs), after)
    | '"' :: rest => (string? ('"' :: rest)).map fun (s, after) => (.str s, after)
    | rest => number? rest

/-- The items of an array that has some, and its end. -/
def items? : Nat → Nat → List Char → Option (List Json × List Char)
  | 0, _, _ => none
  | fuel + 1, depth, cs => do
    let (x, rest) ← value? fuel depth cs
    match skipSpace rest with
    | ',' :: more =>
      let (xs, after) ← items? fuel depth more
      return (x :: xs, after)
    | ']' :: after => return ([x], after)
    | _ => none

/-- The members of an object that has some, and its end. -/
def members? : Nat → Nat → List Char → Option (List (String × Json) × List Char)
  | 0, _, _ => none
  | fuel + 1, depth, cs => do
    let (key, rest) ← string? (skipSpace cs)
    match skipSpace rest with
    | ':' :: rest =>
      let (x, rest) ← value? fuel depth rest
      match skipSpace rest with
      | ',' :: more =>
        let (xs, after) ← members? fuel depth more
        return ((key, x) :: xs, after)
      | '}' :: after => return ([(key, x)], after)
      | _ => none
    | _ => none
end

/-- The value of a text, in which arrays and objects nest at most `depth` deep. -/
def parse? (depth : Nat) (text : String) : Option Json := do
  let cs := text.toList
  let (j, rest) ← value? (2 * cs.length + 1) depth cs
  if (skipSpace rest).isEmpty then some j else none

/-- JSON text found inside other values nests at most 127 deep. -/
def nestingLimit : Nat := 127

/-- The value of JSON text found inside another value. -/
def read? (text : String) : Option Json := parse? nestingLimit text

end EntityMapper.Json
