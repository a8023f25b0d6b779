import EntityMapper.Field.Value
import EntityMapper.Json.Printer

/-!
# SQLite cells

How SQLite keeps a value that is given to it as a parameter, and the value that is read from a cell.
It keeps null, 64-bit integers, binary64 numbers, text and bytes: truth values become integers, larger
integers the nearest binary64 number, lists and objects their JSON text.
-/

namespace EntityMapper.Sqlite

inductive Cell where
  | null
  | integer (n : Int)
  | real (x : Double)
  | text (s : String)
  | blob (bytes : List UInt8)

namespace Cell

def ofJson : Json → Cell
  | .null => .null
  | .bool b => .integer (if b then 1 else 0)
  | .int n =>
    match Json.int64? (.int n), Double.ofInt? n with
    | some n, _ => .integer n
    | none, some x => .real x
    | none, none => .null
  | .float x => .real x
  | .str s => .text s
  | .arr items => .text (Json.arr items).compact
  | .obj members => .text (Json.obj members).compact

def toJson : Cell → Json
  | .null => .null
  | .integer n => .int n
  | .real x => .float x
  | .text s => .str s
  | .blob bytes => .ofBytes bytes

/-- The bytes that hexadecimal text stands for; text ends at its first NUL. -/
def unhexText (cs : List Char) : Cell :=
  match Text.Hex.decode? (cs.takeWhile (· ≠ '\x00')) with
  | some bytes => .blob bytes
  | none => .null

/-- SQLite's `unhex`: the bytes that the text of a cell stands for, else null. The text of a binary64
number always has a point in it, and a cell of bytes is read as text only if they are ASCII. -/
def unhex : Cell → Cell
  | .text s => unhexText s.toList
  | .integer n => unhexText (Text.Decimal.ofInt n)
  | _ => .null

end Cell
end EntityMapper.Sqlite
