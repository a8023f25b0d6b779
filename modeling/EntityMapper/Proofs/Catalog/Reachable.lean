import EntityMapper.Proofs.Catalog.Backing

/-!
# Reachable catalogs

What holds of every catalog that declarations lead to, in whatever order they come: a declared entity
goes on under its name with the fields it was declared with, the columns of each relation are there,
and each index is over stored fields.
-/

namespace EntityMapper.Catalog

variable {c c' : Catalog} {entity name n : String} {e e' : Entity} {r : Relation}

/-! ## The invariant -/

/-- The entities of a catalog stand in the order in which they were declared, each grown from its
declaration. -/
structure Coherent (c : Catalog) : Prop where
  names : c.entities.map (·.name) = c.declared.map (·.name)
  distinct : (c.declared.map (·.name)).Nodup
  grown : ∀ d ∈ c.declared, ∃ e, c.entity? d.name = some e ∧ d.Extends e
  backed : ∀ r ∈ c.relations, c.Backed r
  indexNames : (c.indices.map (·.name)).Nodup
  indexed : ∀ i ∈ c.indices, c.Indexes i

theorem Coherent.grown_extend (hc : c.Coherent) (h : c.Extends c') :
    ∀ d ∈ c.declared, ∃ e, c'.entity? d.name = some e ∧ d.Extends e := by
  intro d hd
  obtain ⟨e, he, hde⟩ := hc.grown d hd
  obtain ⟨e', he', hee'⟩ := h.entity? d.name e he
  exact ⟨e', he', hde.trans hee'⟩

theorem Coherent.replaceEntity (hc : c.Coherent) (he : c.entity? name = some e)
    (h : e.Extends e') : (c.replaceEntity name e').Coherent := by
  have hext := extends_replaceEntity he h
  have hname : e'.name = name := h.name.trans (name_of_entity? he)
  refine ⟨Eq.trans ?_ hc.names, hc.distinct, hc.grown_extend hext,
    fun r hr => (hc.backed r hr).extend hext, hc.indexNames,
    fun i hi => (hc.indexed i hi).extend hext⟩
  unfold Catalog.replaceEntity
  rw [List.map_map]
  refine List.map_congr_left fun other _ => ?_
  by_cases hother : other.name = name <;> simp [hother, hname]

theorem Coherent.addEntity (hc : c.Coherent) (h : c.addEntity e = .ok c') : c'.Coherent := by
  have hext := extends_addEntity h
  obtain ⟨_, -, -, rfl⟩ | ⟨hnone, rfl⟩ := addEntity_cases h
  · exact hc
  -- the name is new among the entities, because it is among the declarations
  have hnew : c.entity? e.name = none := by
    have hnames : e.name ∉ c.entities.map (·.name) := hc.names ▸ Keyed.notMem_of_find? hnone
    simpa [Catalog.entity?] using hnames
  refine ⟨by simp [hc.names], Keyed.nodup_append hc.distinct hnone, ?_,
    fun r hr => (hc.backed r hr).extend hext, hc.indexNames,
    fun i hi => (hc.indexed i hi).extend hext⟩
  intro d hd
  rcases List.mem_append.mp hd with hd | hd
  · exact hc.grown_extend hext d hd
  · obtain rfl := List.mem_singleton.mp hd
    refine ⟨d, ?_, .refl d⟩
    unfold Catalog.entity? at hnew ⊢
    rw [List.find?_append, hnew]
    simp

theorem Coherent.setFieldHidden {field : String} {hidden : Bool} (hc : c.Coherent)
    (h : c.setFieldHidden name field hidden = .ok c') : c'.Coherent := by
  obtain ⟨e, e', he, he', rfl⟩ := setFieldHidden_cases h
  exact hc.replaceEntity he (Entity.extends_setFieldHidden he')

theorem Coherent.addStorage {source target : Entity} (hc : c.Coherent)
    (hsource : c.entity? r.source = some source) (h : c.addStorage r source target = .ok c') :
    c'.Coherent := by
  obtain ⟨-, e', he', rfl⟩ | ⟨-, -, junction, -, hadd⟩ := addStorage_cases h
  · exact hc.replaceEntity hsource (Entity.extends_addField he')
  · exact hc.addEntity hadd

theorem Coherent.addRelation (hc : c.Coherent) (h : c.addRelation r = .ok c') : c'.Coherent := by
  obtain ⟨-, rfl⟩ | ⟨source, target, stored, hadmits, rfl⟩ := addRelation_cases h
  · exact hc
  · have hstored := hc.addStorage hadmits.source hadmits.storage
    have hext := extends_appendRelation stored r
    refine ⟨hstored.names, hstored.distinct, hstored.grown, ?_, hstored.indexNames,
      fun i hi => (hstored.indexed i hi).extend hext⟩
    intro other hother
    rcases List.mem_append.mp hother with hother | hother
    · exact (hstored.backed other hother).extend hext
    · obtain rfl := List.mem_singleton.mp hother
      exact hadmits.backed.extend hext

theorem Coherent.addIndex {i : Index} (hc : c.Coherent) (h : c.addIndex i = .ok c') :
    c'.Coherent := by
  have hext := extends_addIndex h
  obtain ⟨-, hindexes, ⟨-, rfl⟩ | ⟨hnone, rfl⟩⟩ := addIndex_cases h
  · exact hc
  · refine ⟨hc.names, hc.distinct, hc.grown, fun r hr => (hc.backed r hr).extend hext,
      Keyed.nodup_append hc.indexNames hnone, ?_⟩
    intro other hother
    rcases List.mem_append.mp hother with hother | hother
    · exact (hc.indexed other hother).extend hext
    · obtain rfl := List.mem_singleton.mp hother
      exact hindexes.extend hext

theorem Reachable.coherent (h : Reachable c) : c.Coherent := by
  induction h with
  | empty => exact ⟨rfl, by simp, by simp, by simp, by simp, by simp⟩
  | addEntity _ h ih => exact ih.addEntity h
  | setFieldHidden _ h ih => exact ih.setFieldHidden h
  | addRelation _ h ih => exact ih.addRelation h
  | addIndex _ h ih => exact ih.addIndex h

/-! ## Keys -/

/-- The columns that hold the keys of a relation reference the primary fields of its sides. -/
theorem Coherent.references (hc : c.Coherent) (hr : r ∈ c.relations) :
    ∃ s t, c.entity? r.source = some s ∧ c.entity? r.target = some t ∧
      match r.kind with
      | .manyToOne => c.References r.source r.foreignKey r.target t.primary.name
      | .manyToMany =>
        c.References r.junctionName r.junctionSourceKey r.source s.primary.name
          ∧ c.References r.junctionName r.junctionTargetKey r.target t.primary.name := by
  obtain ⟨s, t, hs, ht, hstorage⟩ := hc.backed r hr
  refine ⟨s, t, hs, ht, ?_⟩
  cases hstorage with
  | column kind found points =>
    rw [kind]
    exact references_of_keyKind hs ht found points
  | @junction d kind distinct declared name columns =>
    rw [kind]
    obtain ⟨e, he, hext⟩ := hc.grown d declared
    rw [name] at he
    obtain ⟨⟨f, hf, hsource⟩, g, hg, htarget⟩ := junction_field? distinct columns
    obtain ⟨f', hf', hfkind⟩ := hext.field _ _ hf
    obtain ⟨g', hg', hgkind⟩ := hext.field _ _ hg
    exact ⟨references_of_keyKind he hs hf' (hfkind.trans hsource),
      references_of_keyKind he ht hg' (hgkind.trans htarget)⟩

/-! ## Stored fields -/

/-- The entities of a catalog stand in the order in which they were declared, each with at least the
stored fields of its declaration. -/
structure Covered (c : Catalog) : Prop where
  names : c.entities.map (·.name) = c.declared.map (·.name)
  stores : ∀ d ∈ c.declared, ∀ n, d.Stores n → c.Holds d.name n

/-- The columns that hold the keys of a relation are stored fields: of the source, or of the
junction. -/
def HoldsKeys (c : Catalog) (r : Relation) : Prop :=
  match r.kind with
  | .manyToOne => c.Holds r.source r.foreignKey
  | .manyToMany =>
    c.Holds r.junctionName r.junctionSourceKey ∧ c.Holds r.junctionName r.junctionTargetKey

structure Sound (c : Catalog) : Prop extends c.Covered where
  keys : ∀ r ∈ c.relations, c.HoldsKeys r

theorem Coherent.covered (hc : c.Coherent) : c.Covered := by
  refine ⟨hc.names, fun d hd n hn => ?_⟩
  obtain ⟨e, he, hext⟩ := hc.grown d hd
  exact ⟨e, he, hext.stores n hn⟩

theorem Coherent.holdsKeys (hc : c.Coherent) (hr : r ∈ c.relations) : c.HoldsKeys r := by
  obtain ⟨_, _, -, -, hkeys⟩ := hc.references hr
  unfold HoldsKeys
  cases hkind : r.kind <;> rw [hkind] at hkeys
  · exact hkeys.holds
  · exact ⟨hkeys.1.holds, hkeys.2.holds⟩

theorem Reachable.sound (h : Reachable c) : c.Sound :=
  ⟨h.coherent.covered, fun _ hr => h.coherent.holdsKeys hr⟩

/-! ## A library -/

def authors : Entity := ⟨"authors", [.primary "id" .integer, .text "name"], {}, rfl⟩

def posts : Entity := ⟨"posts", [.primary "id" .integer, .text "title"], {}, rfl⟩

def authorship : Relation :=
  { Relation.manyToOne "posts" "authors" with sourceName := "author", foreignKey := "author_id" }

/-- Posts as they are when they have got the key of their author. -/
def authoredPosts : Entity :=
  ⟨"posts", posts.fields ++ [foreignKeyField authorship "author_id" "authors" authors.primary], {},
    rfl⟩

def library : Catalog where
  declared := [authors, posts]
  entities := [authors, authoredPosts]
  relations := [authorship]

theorem reachable_posts :
    Reachable { declared := [authors, posts], entities := [authors, posts] } := by
  have hauthors : Reachable { declared := [authors], entities := [authors] } :=
    .addEntity (e := authors) .empty rfl
  exact .addEntity (e := posts) hauthors rfl

theorem reachable_library : library.Reachable := .addRelation (r := authorship) reachable_posts rfl

end EntityMapper.Catalog
