import EntityMapper.Proofs.Catalog.Named
import EntityMapper.Proofs.Catalog.Registration
import EntityMapper.Proofs.Entity.Primary

/-!
# Consistent catalogs

Whatever calls are made, in whatever order and whether they succeed or fail, the entities, relations
and indices of a catalog fit together: entities and indices have names of their own, and every column
that a way between entities or an index mentions is there.
-/

namespace EntityMapper

namespace Catalog

open Entity (NamedFields)

variable {c c' : Catalog} {entity : String} {r : Relation} {p : Path}

/-! ## Ways -/

/-- The foreign keys of a way: our own, the one of the related entity, or both of the junction. -/
def KeyedPath (c : Catalog) (entity : String) (p : Path) : Prop :=
  match p.direction, p.junction with
  | .toOne, none => c.References entity p.ourKey p.related p.theirKey
  | .toMany, none => c.References p.related p.theirKey entity p.ourKey
  | .manyToMany, some j =>
    c.References j.entity j.ourKey entity p.ourKey
      ∧ c.References j.entity j.theirKey p.related p.theirKey
  | _, _ => False

/-- A way from an entity joins columns of both sides. -/
structure Leads (c : Catalog) (entity : String) (p : Path) : Prop where
  ourKey : c.Holds entity p.ourKey
  theirKey : c.Holds p.related p.theirKey
  keys : c.KeyedPath entity p

theorem KeyedPath.leads (h : c.KeyedPath entity p) : c.Leads entity p := by
  suffices hboth : c.Holds entity p.ourKey ∧ c.Holds p.related p.theirKey from
    ⟨hboth.1, hboth.2, h⟩
  unfold KeyedPath at h
  split at h
  · exact ⟨h.holds, h.holds_key⟩
  · exact ⟨h.holds_key, h.holds⟩
  · exact ⟨h.1.holds_key, h.2.holds_key⟩
  · exact h.elim

theorem Coherent.leads (hc : c.Coherent) (h : p ∈ c.relationsOf entity) : c.Leads entity p := by
  obtain ⟨r, hr, s, t, hs, ht, hp⟩ := relationsOf_cases h
  obtain ⟨s', t', hs', ht', hkeys⟩ := hc.references hr
  rw [hs] at hs'
  rw [ht] at ht'
  cases hs'
  cases ht'
  apply KeyedPath.leads
  unfold KeyedPath
  rcases hp with ⟨rfl, rfl⟩ | ⟨rfl, rfl⟩
  · unfold Relation.pathFromSource
    cases hkind : r.kind <;> rw [hkind] at hkeys <;> exact hkeys
  · unfold Relation.pathFromTarget
    cases hkind : r.kind <;> rw [hkind] at hkeys
    · exact hkeys
    · exact hkeys.symm

/-! ## The catalog as a whole -/

structure Consistent (c : Catalog) : Prop where
  entityNames : (c.entities.map (·.name)).Nodup
  fields : ∀ e ∈ c.entities, NamedFields e.fields
  primary : ∀ e ∈ c.entities, e.fields.filter Field.isPrimary = [e.primary]
  sides : ∀ r ∈ c.relations, (c.entity? r.source).isSome ∧ (c.entity? r.target).isSome
  ways : ∀ e ∈ c.entities, ∀ p ∈ c.relationsOf e.name, c.Leads e.name p
  indexNames : (c.indices.map (·.name)).Nodup
  indices : ∀ i ∈ c.indices, c.Indexes i

theorem Reachable.consistent (h : c.Reachable) (hdeclared : ∀ d ∈ c.declared, d.Declared) :
    c.Consistent := by
  have hc := h.coherent
  have honce := h.forall_entities hdeclared Entity.kept_keyedOnce
  refine
    { entityNames := hc.names ▸ hc.distinct
      fields := (h.named hdeclared).fields
      primary := fun e he => Entity.filter_primary (honce e he)
      sides := fun r hr => ?_
      ways := fun e _ p hp => hc.leads hp
      indexNames := hc.indexNames
      indices := hc.indexed }
  obtain ⟨s, t, hs, ht, -⟩ := hc.backed r hr
  rw [hs, ht]
  exact ⟨rfl, rfl⟩

end Catalog

/-! ## Calls -/

namespace Declaration

open Catalog (authors posts authorship library)

variable {c c' : Catalog} {d : Declaration}

/-- Entities are declared by a caller, or they are junctions. -/
theorem declared_apply (hc : ∀ e ∈ c.declared, e.Declared) (hd : ∀ e, d = .entity e → e.Declared)
    (h : d.apply c = .ok c') : ∀ e ∈ c'.declared, e.Declared := by
  have hadd {e : Entity} {c' : Catalog} (he : e.Declared) (h : c.addEntity e = .ok c') :
      ∀ e ∈ c'.declared, e.Declared := by
    obtain ⟨_, -, -, rfl⟩ | ⟨-, rfl⟩ := Catalog.addEntity_cases h
    · exact hc
    · simpa [or_imp, forall_and] using ⟨hc, he⟩
  cases d with
  | entity e => exact hadd (hd e rfl) h
  | relation r =>
    obtain ⟨-, rfl⟩ | ⟨_, _, stored, hadmits, rfl⟩ := Catalog.addRelation_cases h
    · exact hc
    · obtain ⟨-, _, -, rfl⟩ | ⟨-, -, junction, hjunction, hstored⟩ :=
        Catalog.addStorage_cases hadmits.storage
      · exact hc
      · have hjunctions := hadd (.declare hjunction) hstored
        exact hjunctions
  | index i => obtain ⟨-, -, ⟨-, rfl⟩ | ⟨-, rfl⟩⟩ := Catalog.addIndex_cases h <;> exact hc
  | visibility name field hidden =>
    obtain ⟨_, _, -, -, rfl⟩ := Catalog.setFieldHidden_cases h
    exact hc

/-- Calls that begin with nothing, and register entities that were declared, leave a consistent
catalog. -/
theorem after_consistent (calls : List Declaration) (h : ∀ e, .entity e ∈ calls → e.Declared) :
    (({} : Catalog).after calls).Consistent := by
  refine (reachable_after .empty calls).consistent ?_
  refine after_induction (P := fun c => ∀ e ∈ c.declared, e.Declared) (by simp) ?_
  intro d hd c c' hc happly
  exact declared_apply hc (fun e he => h e (he ▸ hd)) happly

def libraryCalls : List Declaration :=
  [.entity authors, .entity posts, .relation authorship, .relation titled,
    .index ⟨"titles", "posts", ["title"], false⟩, .visibility "posts" "title" true]

theorem after_consistent_library :
    (∀ e, .entity e ∈ libraryCalls → e.Declared)
      ∧ (({} : Catalog).after libraryCalls).relations = [authorship]
      ∧ (({} : Catalog).after libraryCalls).Consistent := by
  have hdeclared : ∀ e, .entity e ∈ libraryCalls → e.Declared := by
    intro e he
    apply Catalog.declared_library
    simpa [libraryCalls, library] using he
  exact ⟨hdeclared, rfl, after_consistent libraryCalls hdeclared⟩

end Declaration
end EntityMapper
