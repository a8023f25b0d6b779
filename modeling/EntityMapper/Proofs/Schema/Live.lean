import EntityMapper.Index
import EntityMapper.Proofs.Keyed
import EntityMapper.Schema.Live
import Mathlib.Data.List.Nodup
import Mathlib.Data.List.Pairwise

/-!
# Tables and indexes by name

While no two tables have one name, a table is found under its name; and so is each index of a table.
-/

namespace EntityMapper

/-- The index as it is found when it has been created. -/
def Index.asLive (i : Index) : Schema.LiveIndex := ⟨i.name, i.fields, i.unique⟩

namespace Schema

/-- Tables have names of their own, and so have the indexes of each table. -/
structure Findable (live : List LiveTable) : Prop where
  tables : (live.map (·.name)).Nodup
  indexes : ∀ table ∈ live, (table.indexes.map (·.name)).Nodup

/-- So have the columns of each table. -/
structure Distinct (live : List LiveTable) : Prop extends Findable live where
  columns : ∀ table ∈ live, table.columns.Nodup

/-- No two indexes have one name, whichever tables they are of. -/
def DistinctIndexes (live : List LiveTable) : Prop :=
  (live.flatMap fun table => table.indexes.map (·.name)).Nodup

theorem DistinctIndexes.eq_of_name {live : List LiveTable} (h : DistinctIndexes live)
    {table table' : LiveTable} {x x' : LiveIndex} (ht : table ∈ live) (hx : x ∈ table.indexes)
    (ht' : table' ∈ live) (hx' : x' ∈ table'.indexes) (hname : x.name = x'.name) :
    table = table' := by
  have hapart := (List.nodup_flatMap.mp h).2
  by_contra hne
  have hsymm : Std.Symm (Function.onFun List.Disjoint fun table : LiveTable =>
      table.indexes.map (·.name)) := ⟨fun _ _ hdisjoint _ hx hx' => hdisjoint hx' hx⟩
  have hdisjoint := hapart.forall ht ht' hne
  exact hdisjoint (List.mem_map_of_mem hx) (hname ▸ List.mem_map_of_mem hx')

theorem DistinctIndexes.indexes {live : List LiveTable} (h : DistinctIndexes live)
    {table : LiveTable} (ht : table ∈ live) : (table.indexes.map (·.name)).Nodup :=
  (List.nodup_flatMap.mp h).1 table ht

namespace LiveTable

variable {live : List LiveTable} {table : LiveTable} {x : LiveIndex} {name : String}

theorem find?_eq_none_iff : find? live name = none ↔ ∀ table ∈ live, table.name ≠ name := by
  unfold find?
  simp

theorem mem_of_find? (h : find? live name = some table) : table ∈ live ∧ table.name = name := by
  unfold find? at h
  have hmem := List.mem_of_find?_eq_some h
  have hname := List.find?_some h
  exact ⟨List.mem_reverse.mp hmem, by simpa using hname⟩

theorem find?_of_mem (h : (live.map (·.name)).Nodup) (ht : table ∈ live) :
    find? live table.name = some table := by
  have hreverse : (live.reverse.map (·.name)).Nodup := by
    rw [List.map_reverse]
    exact List.pairwise_reverse.mpr (h.imp Ne.symm)
  exact Keyed.find?_of_mem hreverse (List.mem_reverse.mpr ht)

theorem index?_eq_some_iff (h : (table.indexes.map (·.name)).Nodup) :
    table.index? name = some x ↔ x ∈ table.indexes ∧ x.name = name := by
  unfold index?
  constructor
  · intro hfound
    have hname := List.find?_some hfound
    exact ⟨List.mem_of_find?_eq_some hfound, by simpa using hname⟩
  · rintro ⟨hx, rfl⟩
    exact Keyed.find?_of_mem h hx

theorem index?_eq_none_iff : table.index? name = none ↔ ∀ x ∈ table.indexes, x.name ≠ name := by
  unfold index?
  simp

end LiveTable
end Schema
end EntityMapper
