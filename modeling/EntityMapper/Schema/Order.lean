import EntityMapper.Entity.Basic
import EntityMapper.Schema.Live

/-!
# Order of tables

Tables are created after those they point at and dropped before them. Where they point at each other
in a cycle, the first that is left goes next.
-/

namespace EntityMapper.Schema

/-- Takes the items one by one: the first that is ready once those in `placed` are, else the first
that is left. Items are told apart by name, and each name is taken once. -/
def arrange {α : Type} (name : α → String) (ready : List String → α → Bool) (all : List α) :
    Nat → List String → List α
  | 0, _ => []
  | n + 1, placed =>
    let left := all.filter fun a => !placed.contains (name a)
    match (left.find? (ready placed)).or left.head? with
    | none => []
    | some a => a :: arrange name ready all n (name a :: placed)

/-- The entities that the relation fields of an entity point at. -/
def targets (e : Entity) : List String :=
  e.fields.filterMap fun f =>
    match f.kind with
    | .relation key => some key.target
    | _ => none

/-- The other entities of the list that the entity of a name points at; of several of that name the
last counts. -/
def dependencies (all : List Entity) (name : String) : List String :=
  match all.reverse.find? (·.name == name) with
  | none => []
  | some e => (targets e).filter fun t => t != name && all.any (·.name == t)

/-- The entities with each after those it points at. -/
def dependencyOrder (all : List Entity) : List Entity :=
  arrange Entity.name (fun placed e => (dependencies all e.name).all placed.contains) all
    all.length []

/-- Whether a table other than the named one and not yet placed points at it. -/
def isReferenced (all : List LiveTable) (placed : List String) (name : String) : Bool :=
  all.any fun t => t.name != name && !placed.contains t.name && t.references.contains name

/-- The tables with each before those it points at. -/
def dropOrder (all : List LiveTable) : List LiveTable :=
  arrange LiveTable.name (fun placed t => !isReferenced all placed t.name) all all.length []

end EntityMapper.Schema
