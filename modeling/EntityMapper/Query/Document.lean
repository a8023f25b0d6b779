import EntityMapper.Document
import EntityMapper.Error
import EntityMapper.Query.NameList
import EntityMapper.Query.Sort

/-!
# Query documents

A query as callers send it: every member may be left out or be null, sort orders and name lists have
two written forms, and under `with` stand names of relations or a document for each.
-/

namespace EntityMapper

open Document

/-- A sort order as callers write it. -/
inductive SortSpec where
  | text (s : String)
  | order (o : SortOrder)
deriving DecidableEq, Repr

/-- The members of a query document apart from `with`. -/
structure QueryMembers where
  limit : Option Nat := none
  offset : Option Nat := none
  sort : Option SortSpec := none
  filter : Option Json := none
  select : Option NameList := none
  join : Option NameList := none

mutual
/-- A query as callers send it. -/
inductive QueryDocument where
  | mk (members : QueryMembers) (relations : Option RelationsDocument)

/-- What stands under `with`: names of relations, or a query for each. -/
inductive RelationsDocument where
  | names (list : NameList)
  | nested (queries : List (String × QueryDocument))
end

namespace SortSpec

/-- The order of a document: text, or a record of key and direction. -/
def ofJson? : Json → Option SortSpec
  | .str s => some (.text s)
  | j => do
    match ← record? ["by", "dir"] j with
    | [key, direction] =>
      let directions := [("asc", SortDirection.ascending), ("desc", .descending)]
      return .order ⟨← required? text? key,
        ← withDefault? .ascending (choice? directions) direction⟩
    | _ => none

def directionName : SortDirection → String
  | .ascending => "asc"
  | .descending => "desc"

def toJson : SortSpec → Json
  | .text s => .str s
  | .order o =>
    objectOf [("by", some (.str o.key)), ("dir", some (.str (directionName o.direction)))]

/-- The order that is meant. The direction of a record counts, whatever sign its key has. -/
def toOrder : SortSpec → SortOrder
  | .text s => .parse s
  | .order o => { SortOrder.parse o.key with direction := o.direction }

end SortSpec

/-- The members apart from `with`, from the parts of a record. -/
def QueryMembers.read? : List (Option Json) → Option QueryMembers
  | limit :: offset :: sort :: filter :: select :: join :: _ => do
    return { limit := ← optional? count? limit
             offset := ← optional? count? offset
             sort := ← optional? SortSpec.ofJson? sort
             filter := ← optional? some filter
             select := ← optional? NameList.ofJson? select
             join := ← optional? NameList.ofJson? join }
  | _ => none

/-- The members apart from `with` as they are written. -/
def QueryMembers.written (m : QueryMembers) : List (String × Option Json) :=
  [("limit", m.limit.map fun n : Nat => .int n), ("offset", m.offset.map fun n : Nat => .int n),
    ("sort", m.sort.map SortSpec.toJson), ("where", m.filter),
    ("select", m.select.map NameList.toJson), ("join", m.join.map NameList.toJson)]

namespace QueryDocument

/-- The names of a document's members, in the order of its array form. -/
def memberNames : List String := ["limit", "offset", "sort", "where", "select", "join", "with"]

mutual
def ofJson? : Json → Option QueryDocument
  | .obj members => do
    return .mk (← QueryMembers.read? (← record? memberNames (.obj members)))
      (← relationsOf? members)
  | .arr items => do
    return .mk (← QueryMembers.read? (← record? memberNames (.arr items)))
      (← relationsAt? 6 items)
  | _ => none

/-- The member `with` of an object. -/
def relationsOf? : List (String × Json) → Option (Option RelationsDocument)
  | [] => some none
  | (key, j) :: rest => if key = "with" then relations? j else relationsOf? rest

/-- The member at a place of an array. -/
def relationsAt? : Nat → List Json → Option (Option RelationsDocument)
  | _, [] => some none
  | 0, j :: _ => relations? j
  | n + 1, _ :: rest => relationsAt? n rest

/-- What stands under `with`. -/
def relations? : Json → Option (Option RelationsDocument)
  | .null => some none
  | .str s => some (some (.names (.text s)))
  | .arr items => (items.mapM Json.str?).map fun names => some (.names (.items names))
  | .obj members => (nested? members).map fun queries => some (.nested queries)
  | _ => none

/-- A query for each relation. -/
def nested? : List (String × Json) → Option (List (String × QueryDocument))
  | [] => some []
  | (name, j) :: rest => do return (name, ← ofJson? j) :: (← nested? rest)
end

/-- The query of an object; of members that do not fit, the first by its key is named. -/
def ofObject (doc : Json) : Except QueryError QueryDocument :=
  match doc with
  | .obj members => do
    members.forM fun (key, value) =>
      if (ofJson? (.obj [(key, value)])).isSome then .ok () else .error (.malformedMember key)
    match ofJson? doc with
    | some q => return q
    | none => throw (.malformedMember "query")
  | other => .error (.queryNotObject other)

mutual
/-- The document of a query; members that are absent are left out. -/
def toJson : QueryDocument → Json
  | .mk m relations => objectOf (m.written ++ [("with", relationsToJson relations)])

def relationsToJson : Option RelationsDocument → Option Json
  | none => none
  | some (.names list) => some list.toJson
  | some (.nested queries) => some (.obj (nestedToJson queries))

def nestedToJson : List (String × QueryDocument) → List (String × Json)
  | [] => []
  | (name, q) :: rest => (name, toJson q) :: nestedToJson rest
end

end QueryDocument
end EntityMapper
