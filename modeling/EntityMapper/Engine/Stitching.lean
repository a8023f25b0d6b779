import EntityMapper.Query.Basic
import EntityMapper.Sql.Command

/-!
# Stitching

What becomes of the rows that come back: values are decoded, joined columns are gathered under their
relation's name, and the rows of a relation are given to those they belong to. Keys belong together
when their JSON texts are the same.
-/

namespace EntityMapper

/-- Rows of one level, the command that read them, and the key columns that were read only to stitch
relations to them. -/
structure Fetched where
  rows : List Row
  command : Sql.Command
  extra : List String

/-- A row without the columns that were not asked for. -/
def Fetched.strip (f : Fetched) (row : Row) : Json :=
  .obj (row.filter fun entry => !f.extra.contains entry.1)

namespace Stitching

/-! ## Decoding -/

/-- A value decoded for the field of a name; a column that is no field stays as it is. -/
def decodeColumn (d : Dialect) (e : Entity) (name : String) (value : Json) : Json :=
  match e.field? name with
  | some f => d.decode f value
  | none => value

def mainColumns (d : Dialect) (s : Sql.Scope) (row : Row) : Row :=
  row.filterMap fun (column, value) =>
    match Text.splitDot column with
    | none => some (column, decodeColumn d s.entity column value)
    | some _ => none

def joinedColumns (d : Dialect) (j : Sql.Join) (row : Row) : Row :=
  Dict.ofList (row.filterMap fun (column, value) =>
    match Text.splitDot column with
    | none => none
    | some (relation, name) =>
      if relation = j.path.name then some (name, decodeColumn d j.entity name value) else none)

/-- The joined row; when no row matched, all its columns are null. -/
def joinedValue (d : Dialect) (j : Sql.Join) (row : Row) : Json :=
  let columns := joinedColumns d j row
  if columns.any fun entry => !entry.2.isNull then .obj columns else .null

/-- A row as its entity's values, with each joined row under its relation's name. -/
def decodeRow (d : Dialect) (s : Sql.Scope) (row : Row) : Row :=
  s.joins.foldl (fun out j => out.insert j.path.name (joinedValue d j row)) (mainColumns d s row)

/-! ## Related rows -/

/-- Keys are the same when their JSON texts are. -/
def keyText (v : Json) : String := v.compact

/-- The keys other than null, each once, in the order of their first occurrence. -/
def distinctKeys (vs : List Json) : List Json :=
  (vs.foldl (fun (seen : List String × List Json) v =>
    if v.isNull || seen.1.contains (keyText v) then seen
    else (keyText v :: seen.1, seen.2 ++ [v])) ([], [])).2

/-- The part of a list that a level's offset and limit leave. -/
def page (level : QueryLevel) (rows : List Json) : Json :=
  .arr ((rows.drop level.offset).take level.limit)

/-- Rows that have a column, each under the text of its value there. -/
def keyed (column : String) (rows : List Row) : List (String × Row) :=
  rows.filterMap fun row => (row.get? column).map fun key => (keyText key, row)

/-- The related row of each row; of several with one key the last counts. -/
def stitchOne (p : Path) (f : Fetched) (rows : List Row) : List Row :=
  let byKey := Dict.ofList (keyed p.theirKey f.rows)
  rows.map fun row =>
    let related := (row.get? p.ourKey).bind fun key => byKey.get? (keyText key)
    row.insert p.name ((related.map f.strip).getD .null)

/-- Gives each row the group of its key, which it takes away. -/
def giveGroups (p : Path) (level : QueryLevel) : Dict (List Json) → List Row → List Row
  | _, [] => []
  | groups, row :: rest =>
    match row.get? p.ourKey with
    | none => row.insert p.name (page level []) :: giveGroups p level groups rest
    | some key =>
      row.insert p.name (page level ((groups.get? (keyText key)).getD []))
        :: giveGroups p level (groups.erase (keyText key)) rest

/-- The related rows of each row. Those of a key go to the first row that has it. -/
def stitchMany (p : Path) (level : QueryLevel) (f : Fetched) (rows : List Row) : List Row :=
  let groups := Dict.group ((keyed p.theirKey f.rows).map fun entry => (entry.1, f.strip entry.2))
  giveGroups p level groups rows

/-- For each of our keys the keys that the rows of a junction link to it. -/
def links (j : Junction) (pairs : List Row) : Dict (List String) :=
  Dict.group (pairs.filterMap fun pair =>
    match pair.get? j.ourKey, pair.get? j.theirKey with
    | some ours, some theirs => some (keyText ours, keyText theirs)
    | _, _ => none)

/-- Whether a row has one of some keys. -/
def hasKeyAmong (column : String) (keys : List String) (row : Row) : Bool :=
  match row.get? column with
  | some key => keys.contains (keyText key)
  | none => false

/-- The rows that the junction links to each row. -/
def stitchLinked (p : Path) (j : Junction) (level : QueryLevel) (pairs : List Row) (f : Fetched)
    (rows : List Row) : List Row :=
  let links := links j pairs
  rows.map fun row =>
    let related := match (row.get? p.ourKey).bind fun key => links.get? (keyText key) with
      | some theirs => (f.rows.filter (hasKeyAmong p.theirKey theirs)).map f.strip
      | none => []
    row.insert p.name (page level related)

/-- What a row gets when no row has a key. -/
def nothing (p : Path) : Json :=
  match p.direction with
  | .toOne => .null
  | _ => .arr []

def columnValues (column : String) (rows : List Row) : List Json := rows.filterMap (·.get? column)

end Stitching
end EntityMapper
