import EntityMapper.Json.Basic

/-!
# Reading documents

A reader takes a part of a document and gives a value of a type, or nothing when the part does not
fit it. A record is written as an object, whose other members are passed over, or as an array of its
members in order, from whose end members may be missing.
-/

namespace EntityMapper.Document

/-- The greatest unsigned 32-bit integer, the bound of lengths, limits and offsets. -/
def maxCount : Nat := 4294967295

def text? : Json → Option String := Json.str?

def flag? : Json → Option Bool
  | .bool b => some b
  | _ => none

/-- An integer from zero up to `maxCount`; a binary64 number is none. -/
def count? : Json → Option Nat := Json.natUpTo? maxCount

/-- A list of which each item can be read. -/
def list? {α : Type} (read : Json → Option α) : Json → Option (List α)
  | .arr items => items.mapM read
  | _ => none

/-- A part that may be null. -/
def nullable? {α : Type} (read : Json → Option α) : Json → Option (Option α)
  | .null => some none
  | j => (read j).map some

/-- The value with the given name among the alternatives. -/
def named? {α : Type} (alternatives : List (String × α)) (name : String) : Option α :=
  (alternatives.find? (·.1 == name)).map Prod.snd

/-- A choice between named alternatives: the name, or an object with the name as its only key, whose
value `isUnit` admits. -/
def choiceOf? {α : Type} (isUnit : Json → Bool) (alternatives : List (String × α)) :
    Json → Option α
  | .str name => named? alternatives name
  | .obj [(name, value)] => if isUnit value then named? alternatives name else none
  | _ => none

/-- A choice whose object form holds null. -/
def choice? {α : Type} : List (String × α) → Json → Option α := choiceOf? Json.isNull

/-- The members of a record with the given names, in that order. -/
def record? (names : List String) : Json → Option (List (Option Json))
  | .obj members => some (names.map (Dict.get? members))
  | .arr items =>
    if items.length ≤ names.length then
      some (items.map some ++ List.replicate (names.length - items.length) none)
    else none
  | _ => none

def required? {α : Type} (read : Json → Option α) (member : Option Json) : Option α :=
  member.bind read

def withDefault? {α : Type} (fallback : α) (read : Json → Option α) : Option Json → Option α
  | none => some fallback
  | some j => read j

/-- A member that may be absent or null. -/
def optional? {α : Type} (read : Json → Option α) : Option Json → Option (Option α) :=
  withDefault? none (nullable? read)

/-- An object of the members that are present. -/
def objectOf (members : List (String × Option Json)) : Json :=
  .obj (Dict.ofList (members.filterMap fun (name, value) => value.map (name, ·)))

end EntityMapper.Document
