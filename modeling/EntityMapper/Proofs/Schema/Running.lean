import EntityMapper.Proofs.Schema.Undeclared

/-!
# Plans that can be run

A statement that creates an index needs its name to be free in the whole database, and one that drops
an index needs that index to be there. The statements of a plan can be run in order exactly when no
declared index has the name of an index of another table.
-/

namespace EntityMapper

namespace Schema

/-- Some table has an index of the name. -/
def HasIndex (live : List LiveTable) (name : String) : Prop :=
  ∃ table ∈ live, ∃ x ∈ table.indexes, x.name = name

namespace Change

variable {c : Change} {cs cs' : List Change} {live : List LiveTable} {name : String}

/-- Whether the statement can be run, as far as indexes go. -/
def Fits (live : List LiveTable) : Change → Prop
  | .createIndex i => ¬HasIndex live i.name
  | .dropIndex name => HasIndex live name
  | _ => True

/-- Each statement can be run when those before it have been. -/
def Runs : List Change → List LiveTable → Prop
  | [], _ => True
  | c :: rest, live => c.Fits live ∧ Runs rest (c.apply live)

theorem runs_append : Runs (cs ++ cs') live ↔ Runs cs live ∧ Runs cs' (applyAll cs live) := by
  induction cs generalizing live with
  | nil => simp [Runs, applyAll]
  | cons c rest ih =>
    rw [List.cons_append, Runs, Runs, ih, and_assoc]
    rfl

theorem runs_of_fits (h : ∀ c ∈ cs, ∀ live, c.Fits live) : Runs cs live := by
  induction cs generalizing live with
  | nil => trivial
  | cons c rest ih =>
    exact ⟨h c List.mem_cons_self live, ih fun c' hc' => h c' (List.mem_cons_of_mem _ hc')⟩

/-! ## Names that are left alone -/

/-- The change makes no index of the name, and drops none. -/
def Spares (name : String) : Change → Prop
  | .createIndex i => i.name ≠ name
  | .dropIndex other => other ≠ name
  | .dropTable _ => False
  | _ => True

theorem hasIndex_map {f : LiveTable → LiveTable}
    (h : ∀ table : LiveTable, (∃ x ∈ (f table).indexes, x.name = name)
      ↔ ∃ x ∈ table.indexes, x.name = name) :
    HasIndex (live.map f) name ↔ HasIndex live name := by
  simp only [HasIndex, List.mem_map, exists_exists_and_eq_and, h]

theorem hasIndex_apply (h : c.Spares name) : HasIndex (c.apply live) name ↔ HasIndex live name := by
  cases c with
  | createTable table columns => simp [HasIndex, apply, or_and_right, exists_or]
  | addColumn table column =>
    apply hasIndex_map
    intro t
    by_cases hname : t.name = table <;> simp [hname]
  | dropColumn table column =>
    apply hasIndex_map
    intro t
    by_cases hname : t.name = table <;> simp [hname]
  | createIndex i =>
    have hother : i.name ≠ name := h
    apply hasIndex_map
    intro t
    by_cases hname : t.name = i.entity <;> simp [hname, hother, or_and_right, exists_or]
  | dropIndex other =>
    have hother : other ≠ name := h
    apply hasIndex_map
    intro t
    simp only [List.mem_filter, bne_iff_ne, and_assoc]
    refine exists_congr fun x => and_congr_right fun _ => ?_
    constructor
    · exact And.right
    · rintro rfl
      exact ⟨Ne.symm hother, rfl⟩
  | dropTable table => exact h.elim

theorem hasIndex_applyAll (h : ∀ c ∈ cs, c.Spares name) :
    HasIndex (applyAll cs live) name ↔ HasIndex live name := by
  induction cs generalizing live with
  | nil => exact Iff.rfl
  | cons c rest ih =>
    have hrest : HasIndex (applyAll rest (c.apply live)) name ↔ HasIndex (c.apply live) name :=
      ih fun c' hc' => h c' (List.mem_cons_of_mem _ hc')
    exact hrest.trans (hasIndex_apply (h c List.mem_cons_self))

theorem not_hasIndex_dropIndex : ¬HasIndex ((dropIndex name).apply live) name := by
  rintro ⟨table, ht, x, hx, hname⟩
  obtain ⟨t, -, rfl⟩ := List.mem_map.mp ht
  simp [hname] at hx

/-! ## Blocks -/

/-- Blocks that leave each other's names alone run one after another if each runs at first. -/
theorem runs_flatMap {α : Type} {l : List α} {key : α → String} {blocks : α → List Change}
    (hkeys : (l.map key).Nodup)
    (hspares : ∀ a ∈ l, ∀ c ∈ blocks a, ∀ n, n ≠ key a → c.Spares n)
    (hblocks : ∀ a ∈ l, ∀ later, (HasIndex later (key a) ↔ HasIndex live (key a)) →
      (Runs (blocks a) later ↔ Runs (blocks a) live))
    {later : List LiveTable} (hlater : ∀ a ∈ l, HasIndex later (key a) ↔ HasIndex live (key a)) :
    Runs (l.flatMap blocks) later ↔ ∀ a ∈ l, Runs (blocks a) live := by
  induction l generalizing later with
  | nil => simp [Runs]
  | cons a rest ih =>
    rw [List.map_cons, List.nodup_cons] at hkeys
    have hfirst := hblocks a List.mem_cons_self later (hlater a List.mem_cons_self)
    have hrest : Runs (rest.flatMap blocks) (applyAll (blocks a) later)
        ↔ ∀ a' ∈ rest, Runs (blocks a') live := by
      apply ih hkeys.2
      · exact fun a' ha' => hspares a' (List.mem_cons_of_mem _ ha')
      · exact fun a' ha' => hblocks a' (List.mem_cons_of_mem _ ha')
      · intro a' ha'
        have hne : key a' ≠ key a := fun hsame => hkeys.1 (hsame ▸ List.mem_map_of_mem ha')
        rw [hasIndex_applyAll fun c hc => hspares a List.mem_cons_self c hc _ hne]
        exact hlater a' (List.mem_cons_of_mem _ ha')
    rw [List.flatMap_cons, runs_append, hfirst, hrest, List.forall_mem_cons]

/-- Indexes that are there can be dropped one after another, each once. -/
theorem runs_of_drops (hnodup : cs.Nodup)
    (h : ∀ c ∈ cs, ∃ name, c = .dropIndex name ∧ HasIndex live name) : Runs cs live := by
  induction cs generalizing live with
  | nil => trivial
  | cons c rest ih =>
    obtain ⟨name, rfl, hthere⟩ := h c List.mem_cons_self
    rw [List.nodup_cons] at hnodup
    refine ⟨hthere, ih hnodup.2 ?_⟩
    intro c' hc'
    obtain ⟨other, rfl, hother⟩ := h c' (List.mem_cons_of_mem _ hc')
    have hspares : (Change.dropIndex name).Spares other := by
      rintro rfl
      exact hnodup.1 hc'
    exact ⟨other, rfl, (hasIndex_apply hspares).mpr hother⟩

end Change

namespace Target

open Change (Runs Fits Spares applyAll)

variable {t : Target} {live later : List LiveTable} {drop : Bool} {i : Index} {name : String}

/-! ## Declared indexes -/

theorem runs_indexChanges_congr (hf : Findable live)
    (h : HasIndex later i.name ↔ HasIndex live i.name) :
    Runs (indexChanges live i) later ↔ Runs (indexChanges live i) live := by
  obtain ⟨-, hchanges⟩ | ⟨-, hchanges⟩ | ⟨-, hchanges⟩ := indexChanges_cases hf i
  all_goals simp [hchanges, Runs, Fits, h, Change.not_hasIndex_dropIndex]

/-- What a declared index needs can be done exactly when no other table has an index of its name. -/
theorem runs_indexChanges_iff (hf : Findable live) (hindexes : DistinctIndexes live) :
    Runs (indexChanges live i) live
      ↔ ∀ table ∈ live, table.name ≠ i.entity → ∀ x ∈ table.indexes, x.name ≠ i.name := by
  -- if its own table has one, no other has
  have hunique (hown : ∃ table ∈ live, table.name = i.entity ∧ ∃ x ∈ table.indexes, x.name = i.name) :
      ∀ table ∈ live, table.name ≠ i.entity → ∀ x ∈ table.indexes, x.name ≠ i.name := by
    obtain ⟨own, hown, hentity, x, hx, hname⟩ := hown
    intro table ht hother x' hx' hname'
    have hsame := hindexes.eq_of_name ht hx' hown hx (hname'.trans hname.symm)
    exact hother (hsame ▸ hentity)
  obtain ⟨hlacks, hchanges⟩ | ⟨hheld, hchanges⟩ | ⟨hchanged, hchanges⟩ := indexChanges_cases hf i
  · rw [hchanges]
    constructor
    · rintro ⟨hfree, -⟩ table ht - x hx hname
      exact hfree ⟨table, ht, x, hx, hname⟩
    · intro hothers
      refine ⟨?_, trivial⟩
      rintro ⟨table, ht, x, hx, hname⟩
      by_cases hentity : table.name = i.entity
      · exact hlacks table ht hentity x hx hname
      · exact hothers table ht hentity x hx hname
  · obtain ⟨table, ht, hentity, hx⟩ := hheld
    rw [hchanges]
    exact iff_of_true trivial (hunique ⟨table, ht, hentity, _, hx, rfl⟩)
  · obtain ⟨table, ht, hentity, x, hx, hname, -⟩ := hchanged
    rw [hchanges]
    refine iff_of_true ⟨⟨table, ht, x, hx, hname⟩, Change.not_hasIndex_dropIndex, trivial⟩ ?_
    exact hunique ⟨table, ht, hentity, x, hx, hname⟩

theorem spares_indexChanges (hf : Findable live) {c : Change} (hc : c ∈ indexChanges live i)
    (hname : name ≠ i.name) : c.Spares name := by
  obtain ⟨-, rfl⟩ | ⟨-, rfl⟩ := (mem_indexChanges hf).mp hc
  all_goals exact Ne.symm hname

/-! ## All that is planned -/

theorem fits_and_spares {c : Change} (hentities : (t.entities.map (·.name)).Nodup)
    (hf : Findable live)
    (hc : c ∈ t.creations live ++ (dependencyOrder t.entities).flatMap (t.additions live)) :
    (∀ later, c.Fits later) ∧ ∀ name, c.Spares name := by
  rw [additions_eq, List.mem_append, mem_creations hentities,
    mem_flatMap_forTable hentities hf.tables] at hc
  obtain ⟨_, -, -, rfl⟩ | ⟨_, -, _, -, -, hc⟩ := hc
  · exact ⟨fun _ => trivial, fun _ => trivial⟩
  · obtain ⟨_, -, rfl⟩ := List.mem_map.mp hc
    exact ⟨fun _ => trivial, fun _ => trivial⟩

theorem runs_enlargements_iff (hentities : (t.entities.map (·.name)).Nodup)
    (hindices : (t.indices.map (·.name)).Nodup) (hf : Findable live)
    (hindexes : DistinctIndexes live) :
    Runs (t.creations live ++ t.enlargements live) live ↔ t.OwnsIndexNames live := by
  have hquiet := fun c => fits_and_spares (c := c) hentities hf
  unfold enlargements
  -- tables and columns come first and can always be made; then index by index
  rw [← List.append_assoc, Change.runs_append,
    and_iff_right (Change.runs_of_fits fun c hc => (hquiet c hc).1)]
  have hblocks : ∀ i ∈ t.indices, ∀ later, (HasIndex later i.name ↔ HasIndex live i.name) →
      (Runs (indexChanges live i) later ↔ Runs (indexChanges live i) live) :=
    fun i _ later h => runs_indexChanges_congr hf h
  have hspares : ∀ i ∈ t.indices, ∀ c ∈ indexChanges live i, ∀ n, n ≠ i.name → c.Spares n :=
    fun i _ c hc n hn => spares_indexChanges hf hc hn
  rw [Change.runs_flatMap hindices hspares hblocks]
  · exact forall₂_congr fun i _ => runs_indexChanges_iff hf hindexes
  · exact fun i _ => Change.hasIndex_applyAll fun c hc => (hquiet c hc).2 i.name

theorem runs_drops (hentities : (t.entities.map (·.name)).Nodup) (hf : Findable live)
    (hindexes : DistinctIndexes live)
    (hlater : ∀ name, (∀ i ∈ t.indices, i.name ≠ name) → HasIndex live name → HasIndex later name) :
    Runs (t.drops live) later := by
  rw [drops_eq, undeclared, List.append_assoc, List.map_append, Change.runs_append]
  -- indexes are dropped first; what follows drops columns and tables
  constructor
  · apply Change.runs_of_drops
    · apply List.Nodup.map_on _ (nodup_flatMap_undeclaredIndexes hentities hf)
      intro o ho o' ho' hsame
      obtain ⟨owner, name, rfl, hin⟩ := (mem_flatMap_undeclaredIndexes hentities hf).mp ho
      obtain ⟨owner', name', rfl, hin'⟩ := (mem_flatMap_undeclaredIndexes hentities hf).mp ho'
      obtain rfl : name = name' := Change.dropIndex.inj hsame
      rw [hin.owner_eq hindexes hin']
    · intro c hc
      obtain ⟨o, ho, rfl⟩ := List.mem_map.mp hc
      obtain ⟨owner, name, rfl, hin⟩ := (mem_flatMap_undeclaredIndexes hentities hf).mp ho
      obtain ⟨_, -, -, table, ht, -, hx, hno⟩ := hin
      exact ⟨name, rfl, hlater name hno ⟨table, ht, hx⟩⟩
  · apply Change.runs_of_fits
    intro c hc later
    obtain ⟨o, ho, rfl⟩ := List.mem_map.mp hc
    rcases List.mem_append.mp ho with ho | ho
    · obtain ⟨_, -, _, -, -, ho⟩ := (mem_flatMap_forTable hentities hf.tables).mp ho
      obtain ⟨_, -, rfl⟩ := List.mem_map.mp ho
      trivial
    · obtain ⟨_, -, rfl⟩ := List.mem_map.mp ho
      trivial

/-- Where no two indexes of the database have one name, a plan runs exactly when no declared index has
the name of an index of another table. -/
theorem runs_plan_iff (hentities : (t.entities.map (·.name)).Nodup)
    (hindices : (t.indices.map (·.name)).Nodup) (htables : (live.map (·.name)).Nodup)
    (hindexes : DistinctIndexes live) :
    Runs (t.plan live drop) live ↔ t.OwnsIndexNames live := by
  have hf : Findable live := ⟨htables, fun _ => hindexes.indexes⟩
  have hfirst := runs_enlargements_iff hentities hindices hf hindexes
  cases drop with
  | false => rw [plan_false, hfirst]
  | true =>
    rw [plan_true, plan_false, Change.runs_append, hfirst, and_iff_left]
    apply runs_drops hentities hf hindexes
    intro name hno hthere
    rw [Change.hasIndex_applyAll]
    · exact hthere
    · intro c hc
      unfold enlargements at hc
      rw [← List.append_assoc] at hc
      rcases List.mem_append.mp hc with hc | hc
      · exact (fits_and_spares hentities hf hc).2 name
      · obtain ⟨i, hi, hc⟩ := List.mem_flatMap.mp hc
        exact spares_indexChanges hf hc (Ne.symm (hno i hi))

end Target
end Schema

/-! ## Catalogs -/

namespace Catalog

open Schema (LiveTable HasIndex DistinctIndexes)
open Schema.Change (Runs)
open Schema.Target (pressTables)

variable {c : Catalog} {live : List LiveTable}

/-- What the catalog declares, to be written in the dialect. -/
def target (c : Catalog) (d : Dialect) : Schema.Target := ⟨d, c.entities, c.indices⟩

/-- Index names are free or taken in the whole database, but the index of a declared name is looked up
on the declared index's own table. So a plan fails when another table has it, and only then. -/
theorem Reachable.plan_runs_iff (h : c.Reachable) (d : Dialect)
    (htables : (live.map (·.name)).Nodup) (hindexes : DistinctIndexes live) (drop : Bool) :
    Runs ((c.target d).plan live drop) live ↔ (c.target d).OwnsIndexNames live := by
  have hc := h.coherent
  have hentities : ((c.target d).entities.map (·.name)).Nodup := hc.names ▸ hc.distinct
  exact Schema.Target.runs_plan_iff hentities hc.indexNames htables hindexes

def titles : Index := ⟨"titles", "posts", ["title"], true⟩

/-- Posts are found by their titles. -/
def titled : Catalog where
  declared := [authors, posts]
  entities := [authors, posts]
  indices := [titles]

theorem reachable_titled : titled.Reachable := .addIndex (i := titles) reachable_posts rfl

/-- The index of titles is changed, and that of drafts is dropped if it may be. -/
theorem plan_runs_titled :
    titled.Reachable ∧ (pressTables.map (·.name)).Nodup ∧ DistinctIndexes pressTables
      ∧ ∀ drop, Runs ((titled.target .sqlite).plan pressTables drop) pressTables := by
  have htables : (pressTables.map (·.name)).Nodup := by decide
  have hindexes : DistinctIndexes pressTables := by
    unfold DistinctIndexes
    decide
  have hown : (titled.target .sqlite).OwnsIndexNames pressTables := by
    unfold Schema.Target.OwnsIndexNames
    decide
  refine ⟨reachable_titled, htables, hindexes, fun drop => ?_⟩
  exact (reachable_titled.plan_runs_iff .sqlite htables hindexes drop).mpr hown

/-- An index of this name has been on authors before. -/
def movedTitles : List LiveTable :=
  [⟨"authors", ["id", "name"], [⟨"titles", ["name"], false⟩], []⟩, ⟨"posts", ["id", "title"], [], []⟩]

/-- The index is created on posts while that of authors is still there. -/
theorem moved_titles_do_not_run :
    titled.Reachable ∧ (movedTitles.map (·.name)).Nodup ∧ DistinctIndexes movedTitles
      ∧ ∀ drop, (titled.target .sqlite).plan movedTitles drop = [.createIndex titles]
        ∧ HasIndex movedTitles titles.name
        ∧ ¬Runs ((titled.target .sqlite).plan movedTitles drop) movedTitles := by
  have htables : (movedTitles.map (·.name)).Nodup := by decide
  have hindexes : DistinctIndexes movedTitles := by
    unfold DistinctIndexes
    decide
  refine ⟨reachable_titled, htables, hindexes, fun drop => ?_⟩
  have hplan : (titled.target .sqlite).plan movedTitles drop = [.createIndex titles] := by
    cases drop <;> decide
  have htaken : HasIndex movedTitles titles.name :=
    ⟨_, List.mem_cons_self, _, List.mem_cons_self, rfl⟩
  refine ⟨hplan, htaken, ?_⟩
  rw [hplan]
  rintro ⟨hfree, -⟩
  exact hfree htaken

end Catalog
end EntityMapper
