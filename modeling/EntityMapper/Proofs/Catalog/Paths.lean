import EntityMapper.Proofs.Catalog.Reachable
import Mathlib.Data.List.Nodup

/-!
# Ways by their names

An entity does not reach two others under one name, as a relation is refused when one of its names is
taken. The two names of a relation are not compared with each other: where an entity is related to
itself under one name, only the way from the source is found.
-/

namespace EntityMapper

namespace Relation

variable {r : Relation} {entity n : String}

/-- The names under which the sides of a relation that are this entity reach the other side. -/
def namesAt (r : Relation) (entity : String) : List String :=
  (if r.source = entity then [r.sourceName] else [])
    ++ (if r.target = entity then [r.targetName] else [])

/-- An entity reaches itself under one name in both directions. -/
def Ambiguous (r : Relation) : Prop := r.source = r.target ∧ r.sourceName = r.targetName

theorem mem_namesAt :
    n ∈ r.namesAt entity
      ↔ r.source = entity ∧ n = r.sourceName ∨ r.target = entity ∧ n = r.targetName := by
  unfold namesAt
  rw [List.mem_append]
  split <;> split <;> simp [*]

theorem namesAt_nodup : (r.namesAt entity).Nodup ↔ (r.source = entity → ¬r.Ambiguous) := by
  unfold namesAt Ambiguous
  by_cases hsource : r.source = entity
  · by_cases htarget : r.target = entity <;> simp [hsource, htarget, Ne.symm]
  · by_cases htarget : r.target = entity <;> simp [hsource, htarget]

@[simp] theorem pathFromSource_name (sourceKey targetKey : String) :
    (r.pathFromSource sourceKey targetKey).name = r.sourceName := by
  unfold pathFromSource
  cases r.kind <;> rfl

@[simp] theorem pathFromTarget_name (sourceKey targetKey : String) :
    (r.pathFromTarget sourceKey targetKey).name = r.targetName := by
  unfold pathFromTarget
  cases r.kind <;> rfl

theorem pathFromSource_ne_pathFromTarget (h : r.kind = .manyToOne) (sourceKey targetKey : String) :
    r.pathFromSource sourceKey targetKey ≠ r.pathFromTarget sourceKey targetKey := by
  unfold pathFromSource pathFromTarget
  rw [h]
  simp

end Relation

namespace Catalog

variable {c : Catalog} {entity n : String} {r : Relation} {s t : Entity}

/-! ## The names of one relation -/

theorem pathsThrough_eq (hs : c.entity? r.source = some s) (ht : c.entity? r.target = some t)
    (entity : String) :
    c.pathsThrough entity r
      = (if r.source = entity then [r.pathFromSource s.primary.name t.primary.name] else [])
        ++ (if r.target = entity then [r.pathFromTarget s.primary.name t.primary.name] else []) := by
  unfold pathsThrough
  rw [hs, ht]

theorem names_pathsThrough (h : c.Backed r) (entity : String) :
    (c.pathsThrough entity r).map (·.name) = r.namesAt entity := by
  obtain ⟨s, t, hs, ht, -⟩ := h
  rw [pathsThrough_eq hs ht]
  unfold Relation.namesAt
  split <;> split <;> simp

theorem Coherent.names_relationsOf (hc : c.Coherent) (entity : String) :
    (c.relationsOf entity).map (·.name) = c.relations.flatMap (·.namesAt entity) := by
  unfold relationsOf
  rw [List.map_flatMap]
  exact List.flatMap_congr fun r hr => names_pathsThrough (hc.backed r hr) entity

/-! ## The names of all relations -/

theorem Coherent.notMem_namesAt (hc : c.Coherent) (hfree : c.relation? entity n = none)
    (hr : r ∈ c.relations) : n ∉ r.namesAt entity := by
  intro hn
  have hname : n ∈ (c.relationsOf entity).map (·.name) := by
    rw [hc.names_relationsOf]
    exact List.mem_flatMap.mpr ⟨r, hr, hn⟩
  exact Keyed.notMem_of_find? hfree hname

/-- A relation names its sides apart from those of any other. -/
theorem Reachable.names_apart (h : c.Reachable) :
    c.relations.Pairwise fun r r' => ∀ entity, (r.namesAt entity).Disjoint (r'.namesAt entity) := by
  refine h.relations_rec (P := List.Pairwise _) .nil ?_
  intro c new _ _ _ hc hadmits hapart
  rw [List.pairwise_append]
  refine ⟨hapart, List.pairwise_singleton _ _, fun old hold r hr entity n hn hnew => ?_⟩
  obtain rfl := List.mem_singleton.mp hr
  obtain ⟨rfl, rfl⟩ | ⟨rfl, rfl⟩ := Relation.mem_namesAt.mp hnew
  · exact hc.coherent.notMem_namesAt hadmits.sourceName hold hn
  · exact hc.coherent.notMem_namesAt hadmits.targetName hold hn

/-- What is found under a name of a relation is a way that this relation gives. -/
theorem Reachable.relation?_eq (h : c.Reachable) (hr : r ∈ c.relations)
    (hn : n ∈ r.namesAt entity) :
    c.relation? entity n = (c.pathsThrough entity r).find? (·.name == n) := by
  obtain ⟨earlier, later, hsplit⟩ := List.append_of_mem hr
  have hapart := (List.pairwise_append.mp (hsplit ▸ h.names_apart)).2.2
  have hearlier : (earlier.flatMap (c.pathsThrough entity)).find? (·.name == n) = none := by
    rw [List.find?_eq_none]
    intro p hp hname
    obtain ⟨old, hold, hp⟩ := List.mem_flatMap.mp hp
    have hbacked := h.coherent.backed old (hsplit ▸ List.mem_append_left _ hold)
    have hmem : p.name ∈ old.namesAt entity :=
      names_pathsThrough hbacked entity ▸ List.mem_map_of_mem hp
    rw [beq_iff_eq.mp hname] at hmem
    exact hapart old hold r List.mem_cons_self entity hmem hn
  have hfound : ((c.pathsThrough entity r).find? (·.name == n)).isSome := by
    rw [← names_pathsThrough (h.coherent.backed r hr)] at hn
    simpa using hn
  unfold relation? relationsOf
  rw [hsplit, List.flatMap_append, List.flatMap_cons, List.find?_append, hearlier,
    List.find?_append, Option.none_or, Option.or_of_isSome hfound]

/-- The names of an entity's ways are distinct unless it reaches itself under one name in both
directions. Each side of a relation is found under its name, but for the target of such a relation. -/
theorem Reachable.sides_by_name (h : c.Reachable) :
    (∀ entity, ((c.relationsOf entity).map (·.name)).Nodup
        ↔ ∀ r ∈ c.relations, r.source = entity → ¬r.Ambiguous)
      ∧ ∀ r ∈ c.relations, ∃ s t, c.entity? r.source = some s ∧ c.entity? r.target = some t
        ∧ c.relation? r.source r.sourceName
          = some (r.pathFromSource s.primary.name t.primary.name)
        ∧ (c.relation? r.target r.targetName
            = some (r.pathFromTarget s.primary.name t.primary.name) ↔ ¬r.Ambiguous) := by
  refine ⟨fun entity => ?_, fun r hr => ?_⟩
  · rw [h.coherent.names_relationsOf, List.nodup_flatMap]
    simp only [Relation.namesAt_nodup]
    exact and_iff_left (h.names_apart.imp fun hapart => hapart entity)
  obtain ⟨s, t, hs, ht, hstorage⟩ := h.coherent.backed r hr
  refine ⟨s, t, hs, ht, ?_, ?_⟩
  · rw [h.relation?_eq hr (Relation.mem_namesAt.mpr (.inl ⟨rfl, rfl⟩)), pathsThrough_eq hs ht]
    simp
  rw [h.relation?_eq hr (Relation.mem_namesAt.mpr (.inr ⟨rfl, rfl⟩)), pathsThrough_eq hs ht]
  unfold Relation.Ambiguous
  by_cases hself : r.source = r.target
  · have hkind : r.kind = .manyToOne := by
      cases hstorage with
      | column kind => exact kind
      | junction _ distinct => exact absurd hself distinct
    have hne := Relation.pathFromSource_ne_pathFromTarget hkind s.primary.name t.primary.name
    by_cases hname : r.sourceName = r.targetName <;> simp [hself, hname, hne]
  · simp [hself]

theorem sides_by_name_library :
    library.Reachable
      ∧ ((library.relationsOf "posts").map (·.name)).Nodup
      ∧ library.relation? "posts" "author" = some ⟨"author", .toOne, "authors", "author_id", "id", none⟩
      ∧ library.relation? "authors" "posts"
        = some ⟨"posts", .toMany, "posts", "id", "author_id", none⟩ := by
  obtain ⟨hnodup, hsides⟩ := reachable_library.sides_by_name
  have hmem : authorship ∈ library.relations := List.mem_singleton.mpr rfl
  have hnamed : ¬authorship.Ambiguous := by
    simp [Relation.Ambiguous, authorship, Relation.manyToOne, Relation.ofKind]
  obtain ⟨_, _, hs, ht, hsource, htarget⟩ := hsides authorship hmem
  cases hs
  cases ht
  refine ⟨reachable_library, (hnodup "posts").mpr fun r hr _ => ?_, hsource, htarget.mpr hnamed⟩
  rw [List.mem_singleton.mp hr]
  exact hnamed

def members : Entity := ⟨"members", [.primary "id" .integer], {}, rfl⟩

def tags : Entity := ⟨"tags", [.primary "id" .integer], {}, rfl⟩

/-- Each member may have been brought in by another. -/
def club : Catalog where
  declared := [members]
  entities :=
    [⟨"members", members.fields ++ [foreignKeyField (.manyToOne "members" "members") "members_id"
      "members" members.primary], {}, rfl⟩]
  relations := [.manyToOne "members" "members"]

/-- Under the name that both sides have, the member who brought one in is found, and not those whom
one has brought in. -/
theorem club_sides_have_one_name :
    club.Reachable
      ∧ club.relationsOf "members"
        = [⟨"members", .toOne, "members", "members_id", "id", none⟩,
          ⟨"members", .toMany, "members", "id", "members_id", none⟩]
      ∧ ¬((club.relationsOf "members").map (·.name)).Nodup
      ∧ club.relation? "members" "members"
        = some ⟨"members", .toOne, "members", "members_id", "id", none⟩ := by
  have hmembers : Reachable { declared := [members], entities := [members] } :=
    .addEntity (e := members) .empty rfl
  have hclub : club.Reachable := .addRelation (r := .manyToOne "members" "members") hmembers rfl
  have hpaths : club.relationsOf "members"
      = [⟨"members", .toOne, "members", "members_id", "id", none⟩,
        ⟨"members", .toMany, "members", "id", "members_id", none⟩] := rfl
  exact ⟨hclub, hpaths, by rw [hpaths]; decide, rfl⟩

end Catalog
end EntityMapper
