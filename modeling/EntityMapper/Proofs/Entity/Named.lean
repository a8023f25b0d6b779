import EntityMapper.Proofs.Entity.Declarations
import EntityMapper.Proofs.Keyed

/-!
# The names of an entity's fields

Fields of a declared entity have names of their own, which are identifiers, and a change of the
entity keeps it so.
-/

namespace EntityMapper.Entity

structure NamedFields (fields : List Field) : Prop where
  distinct : (fields.map (·.name)).Nodup
  identifiers : ∀ f ∈ fields, Text.isIdentifier f.name = true

variable {e : Entity} {f : Field} {fields : List Field}

theorem NamedFields.front (hnew : New fields f) (h : NamedFields fields) :
    NamedFields (f :: fields) := by
  refine ⟨?_, List.forall_mem_cons.mpr ⟨hnew.identifier, h.identifiers⟩⟩
  rw [List.map_cons, List.nodup_cons]
  exact ⟨Keyed.notMem_of_find? hnew.name, h.distinct⟩

theorem NamedFields.behind (hnew : New fields f) (h : NamedFields fields) :
    NamedFields (fields ++ [f]) := by
  refine ⟨Keyed.nodup_append h.distinct hnew.name, fun g hg => ?_⟩
  rcases List.mem_append.mp hg with hg | hg
  · exact h.identifiers g hg
  · obtain rfl := List.mem_singleton.mp hg
    exact hnew.identifier

theorem NamedFields.hide (h : NamedFields fields) (field : String) (hidden : Bool) :
    NamedFields (fields.map (hide field hidden)) := by
  constructor
  · have hsame : (·.name) ∘ Entity.hide field hidden = (·.name) := funext (hide_name field hidden)
    rw [List.map_map, hsame]
    exact h.distinct
  · simpa using h.identifiers

theorem kept_named : Kept (NamedFields ·.fields) :=
  kept_of_new ⟨by simp, by simp⟩ (fun _ _ => .front) (fun _ _ => .behind)
    fun _ field hidden h => h.hide field hidden

/-! ## Fields by name -/

theorem NamedFields.field?_eq (h : NamedFields e.fields) (hf : f ∈ e.fields) :
    e.field? f.name = some f := Keyed.find?_of_mem h.distinct hf

/-- A query that does not select the field does not show it. -/
def Hides (e : Entity) (n : String) : Prop := ∃ f, e.field? n = some f ∧ f.hidden = true

def Shows (e : Entity) (n : String) : Prop := ∃ f ∈ e.visibleFields, f.name = n

theorem not_hides_of_shows {n : String} (hnamed : NamedFields e.fields) (h : e.Shows n) :
    ¬e.Hides n := by
  rintro ⟨f, hf, hhidden⟩
  obtain ⟨g, hg, rfl⟩ := h
  obtain ⟨hstored, hvisible⟩ := List.mem_filter.mp hg
  have hsame : f = g := by
    have hfound := hnamed.field?_eq (List.mem_filter.mp hstored).1
    exact Option.some.inj (hf.symm.trans hfound)
  subst hsame
  simp [hhidden] at hvisible

end EntityMapper.Entity
