import EntityMapper.Proofs.Entity.Equality
import EntityMapper.Proofs.Keyed

/-!
# Columns

The columns of an entity: the names of its fields and what they hold, without the flags that may
change. Columns of keys are the same in entities that are taken for the same.
-/

namespace EntityMapper

def Field.column (f : Field) : String × FieldKind := (f.name, f.kind)

theorem Field.column_eq_of_beq {f g : Field} (h : (f == g) = true) (hg : g.keyFormat.isSome) :
    f.column = g.column := by
  have hstands : f.StandsFor g := .inr h
  exact Prod.ext hstands.name (hstands.kind hg)

theorem Field.columns_eq_of_beq {fs gs : List Field} (h : (fs == gs) = true)
    (hgs : ∀ g ∈ gs, g.keyFormat.isSome) : fs.map Field.column = gs.map Field.column := by
  induction fs generalizing gs with
  | nil =>
    cases gs with
    | nil => rfl
    | cons g gs => cases h
  | cons f fs ih =>
    cases gs with
    | nil => cases h
    | cons g gs =>
      rw [List.cons_beq_cons, Bool.and_eq_true] at h
      obtain ⟨hg, hgs⟩ := List.forall_mem_cons.mp hgs
      rw [List.map_cons, List.map_cons, Field.column_eq_of_beq h.1 hg, ih h.2 hgs]

namespace Entity

theorem field?_of_column {e : Entity} {n : String} {kind : FieldKind}
    (hdistinct : ((e.fields.map Field.column).map Prod.fst).Nodup)
    (h : (n, kind) ∈ e.fields.map Field.column) : ∃ f, e.field? n = some f ∧ f.kind = kind := by
  obtain ⟨f, hf, hcolumn⟩ := List.mem_map.mp h
  obtain ⟨rfl, rfl⟩ := Prod.mk.inj hcolumn
  rw [List.map_map] at hdistinct
  exact ⟨f, Keyed.find?_of_mem hdistinct hf, rfl⟩

end Entity
end EntityMapper
