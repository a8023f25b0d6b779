import EntityMapper.Filter.Basic
import EntityMapper.Query.Document

/-!
# Queries

A query in full: what one level asks for, and the queries of the relations loaded with it. A limit
that a caller asks for is held down to the greatest allowed; one that is left out is the default.
-/

namespace EntityMapper

/-- The limits that apply where a document is read. -/
structure QueryOptions where
  defaultLimit : Nat := 10
  maxLimit : Nat := 1000
deriving DecidableEq, Repr

/-- What one level of a query asks for. -/
structure QueryLevel where
  limit : Nat
  offset : Nat := 0
  sort : SortOrder := .default
  filter : FilterInput := []
  select : List String := []
  join : List String := []
  /-- Whether the caller gave the sort order. -/
  explicitSort : Bool := false

/-- A level and the queries of the relations loaded with its rows, by their names. -/
inductive Query where
  | node (level : QueryLevel) (nested : List (String × Query))

namespace Query

def level : Query → QueryLevel
  | .node level _ => level

def nested : Query → Dict Query
  | .node _ nested => nested

/-- A query that asks for nothing in particular. -/
def withOptions (o : QueryOptions) : Query := .node { limit := o.defaultLimit } []

def default : Query := withOptions {}

instance : Inhabited Query := ⟨default⟩

/-- The level that a document's members ask for. -/
def readLevel (o : QueryOptions) (m : QueryMembers) : Except QueryError QueryLevel := do
  let filter ← match m.filter with
    | some doc => FilterInput.ofJson doc
    | none => pure []
  return { limit := match m.limit with
             | some n => min n o.maxLimit
             | none => o.defaultLimit
           offset := m.offset.getD 0
           sort := (m.sort.map SortSpec.toOrder).getD .default
           filter
           select := (m.select.map NameList.toList).getD []
           join := (m.join.map NameList.toList).getD []
           explicitSort := m.sort.isSome }

mutual
def read (o : QueryOptions) : QueryDocument → Except QueryError Query
  | .mk m relations => do
    let level ← readLevel o m
    return .node level (← readRelations o relations)

/-- The queries under `with`: the names alone stand for queries that ask for nothing more. -/
def readRelations (o : QueryOptions) :
    Option RelationsDocument → Except QueryError (List (String × Query))
  | none => .ok []
  | some (.names list) => .ok (Dict.ofList (list.toList.map fun name => (name, withOptions o)))
  | some (.nested queries) => readNested o queries

def readNested (o : QueryOptions) :
    List (String × QueryDocument) → Except QueryError (List (String × Query))
  | [] => .ok []
  | (name, q) :: rest => do return (name, ← read o q) :: (← readNested o rest)
end

def ofJson (o : QueryOptions) (doc : Json) : Except QueryError Query := do
  read o (← QueryDocument.ofObject doc)

/-! ## Building queries -/

def mapLevel (f : QueryLevel → QueryLevel) : Query → Query
  | .node level nested => .node (f level) nested

def withLimit (q : Query) (n : Nat) : Query := q.mapLevel fun l => { l with limit := n }

def withOffset (q : Query) (n : Nat) : Query := q.mapLevel fun l => { l with offset := n }

def withSort (q : Query) (text : String) : Query :=
  q.mapLevel fun l => { l with sort := .parse text, explicitSort := true }

def filterBy (q : Query) (field : String) (value : Json) : Query :=
  q.mapLevel fun l => { l with filter := l.filter.insert field (some value) }

def withFilter (q : Query) (filter : FilterInput) : Query := q.mapLevel fun l => { l with filter }

def withSelect (q : Query) (names : List String) : Query := q.mapLevel fun l => { l with select := names }

def joining (q : Query) (relation : String) : Query :=
  q.mapLevel fun l => { l with join := l.join ++ [relation] }

/-- Loads a relation with the rows, as `other` asks. -/
def including (q : Query) (relation : String) (other : Query) : Query :=
  .node q.level (q.nested.insert relation other)

end Query
end EntityMapper
