import EntityMapper.Entity.Basic
import EntityMapper.Proofs.Result

/-!
# The stored fields of an entity

The names under which an entity has a column. The primary field is one of them, and so is every field
that is shown.
-/

namespace EntityMapper

namespace Entity

/-- The entity has a stored field of this name. -/
def Stores (e : Entity) (n : String) : Prop := ∃ f ∈ e.storedFields, f.name = n

def StoredIn (fields : List Field) (n : String) : Prop := ∃ f ∈ fields, f.isStored ∧ f.name = n

variable {e e' : Entity} {f : Field} {n : String}

theorem stores_iff : e.Stores n ↔ StoredIn e.fields n := by
  simp [Stores, StoredIn, storedFields, and_assoc]

theorem stores_of_mem (h : f ∈ e.storedFields) : e.Stores f.name := ⟨f, h, rfl⟩

theorem stores_visible (h : f ∈ e.visibleFields) : e.Stores f.name :=
  stores_of_mem (List.mem_filter.mp h).1

theorem primary_mem (e : Entity) : e.primary ∈ e.fields ∧ e.primary.isPrimary := by
  have h : e.fields.find? Field.isPrimary = some e.primary := (Option.some_get e.hasPrimary).symm
  exact ⟨List.mem_of_find?_eq_some h, List.find?_some h⟩

theorem isStored_of_isPrimary (h : f.isPrimary) : f.isStored := by
  unfold Field.isPrimary at h
  unfold Field.isStored Field.isVirtual
  split at h
  · rename_i hkind
    rw [hkind]
    rfl
  · cases h

theorem primary_stored (e : Entity) : e.primary ∈ e.storedFields :=
  List.mem_filter.mpr ⟨e.primary_mem.1, isStored_of_isPrimary e.primary_mem.2⟩

theorem stores_primary (e : Entity) : e.Stores e.primary.name := stores_of_mem e.primary_stored

theorem stores_of_storedField? (h : e.storedField? n = some f) : e.Stores n := by
  obtain ⟨hfound, hstored⟩ := Option.filter_eq_some_iff.mp h
  have hname := List.find?_some hfound
  exact stores_iff.mpr ⟨f, List.mem_of_find?_eq_some hfound, hstored, by simpa using hname⟩

theorem storedIn_append {fields more : List Field} (h : StoredIn fields n) :
    StoredIn (fields ++ more) n := by
  obtain ⟨f, hf, h⟩ := h
  exact ⟨f, List.mem_append_left _ hf, h⟩

end Entity
end EntityMapper
