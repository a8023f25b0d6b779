import EntityMapper.Proofs.Entity.Stored
import EntityMapper.Proofs.Schema.Live
import EntityMapper.Proofs.Schema.Order
import EntityMapper.Schema.Plan

/-!
# What is planned

A plan first creates tables and then revises those that are there. For each kind of change: when it is
planned. Of an index that is dropped although its name is declared, the creation follows at once.
-/

namespace EntityMapper

/-! ## Columns -/

namespace Dialect

variable {d : Dialect} {f : Field} {c : ColumnSpec}

theorem column?_eq_none_iff : d.column? f = none ↔ f.isStored = false := by
  unfold column? Field.isStored Field.isVirtual
  cases f.kind <;> simp

theorem name_of_column? (h : d.column? f = some c) : c.name = f.name := by
  unfold column? at h
  cases hkind : f.kind <;> simp only [hkind] at h <;> cases h <;> rfl

end Dialect

namespace Entity

variable {e : Entity} {n : String}

theorem storedField?_eq_none_iff (h : (e.fields.map (·.name)).Nodup) :
    e.storedField? n = none ↔ ¬e.Stores n := by
  constructor
  · rintro hnone ⟨f, hf, rfl⟩
    obtain ⟨hmem, hstored⟩ := List.mem_filter.mp hf
    have hfound : e.field? f.name = some f := Keyed.find?_of_mem h hmem
    unfold storedField? at hnone
    rw [hfound, Option.filter_some_pos hstored] at hnone
    cases hnone
  · intro hno
    cases hfound : e.storedField? n with
    | none => rfl
    | some f => exact (hno (stores_of_storedField? hfound)).elim

end Entity

namespace Schema.Target

variable {t : Target} {live : List LiveTable} {drop : Bool}

theorem names_columns (t : Target) (e : Entity) :
    (t.columns e).map (·.name) = e.storedFields.map (·.name) := by
  unfold columns Entity.storedFields
  induction e.fields with
  | nil => rfl
  | cons f rest ih =>
    cases hcolumn : t.dialect.column? f with
    | none =>
      have hstored := Dialect.column?_eq_none_iff.mp hcolumn
      simp [hcolumn, hstored, ih]
    | some c =>
      have hstored : f.isStored = true := by
        rw [← Bool.not_eq_false]
        intro hvirtual
        rw [Dialect.column?_eq_none_iff.mpr hvirtual] at hcolumn
        cases hcolumn
      simp [hcolumn, hstored, ih, Dialect.name_of_column? hcolumn]

theorem stores_iff_column {e : Entity} {n : String} :
    e.Stores n ↔ ∃ c ∈ t.columns e, c.name = n := by
  have hmem : n ∈ (t.columns e).map (·.name) ↔ n ∈ e.storedFields.map (·.name) := by
    rw [names_columns]
  simp only [List.mem_map] at hmem
  exact hmem.symm

/-! ## Names -/

/-- Entities and indices have names of their own, and so have the fields of each entity. -/
structure Named (t : Target) : Prop where
  entities : (t.entities.map (·.name)).Nodup
  fields : ∀ e ∈ t.entities, (e.fields.map (·.name)).Nodup
  indices : (t.indices.map (·.name)).Nodup

/-- No declared index has the name of an index of another table. -/
def OwnsIndexNames (t : Target) (live : List LiveTable) : Prop :=
  ∀ i ∈ t.indices, ∀ table ∈ live, table.name ≠ i.entity → ∀ x ∈ table.indexes, x.name ≠ i.name

theorem nodup_columns (hn : t.Named) {e : Entity} (he : e ∈ t.entities) :
    ((t.columns e).map (·.name)).Nodup := by
  rw [names_columns]
  exact (hn.fields e he).sublist (List.filter_sublist.map _)

theorem mem_ordered (h : (t.entities.map (·.name)).Nodup) {e : Entity} :
    e ∈ dependencyOrder t.entities ↔ e ∈ t.entities := (dependencyOrder_perm h).mem_iff

/-! ## Parts of a plan -/

def creations (t : Target) (live : List LiveTable) : List Change :=
  (dependencyOrder t.entities).flatMap (t.creation live)

/-- The columns that are added to tables, and the indexes that are made. -/
def enlargements (t : Target) (live : List LiveTable) : List Change :=
  (dependencyOrder t.entities).flatMap (t.additions live) ++ t.indices.flatMap (indexChanges live)

/-- What is planned for the tables once all have been created. -/
def revisions (t : Target) (live : List LiveTable) (drop : Bool) : List Change :=
  t.enlargements live ++ if drop then t.drops live else []

theorem plan_eq (t : Target) (live : List LiveTable) (drop : Bool) :
    t.plan live drop = t.creations live ++ t.revisions live drop := by
  unfold plan growth revisions enlargements creations
  simp only [List.append_assoc]

theorem mem_creations (h : (t.entities.map (·.name)).Nodup) {c : Change} :
    c ∈ t.creations live ↔ ∃ e ∈ t.entities, (∀ table ∈ live, table.name ≠ e.name)
      ∧ .createTable e.name (t.columns e) = c := by
  unfold creations
  rw [List.mem_flatMap]
  refine exists_congr fun e => and_congr (mem_ordered h) ?_
  rw [← LiveTable.find?_eq_none_iff]
  unfold creation
  cases LiveTable.find? live e.name <;> simp [eq_comm]

theorem plan_false (t : Target) (live : List LiveTable) :
    t.plan live false = t.creations live ++ t.enlargements live := by
  rw [plan_eq, revisions]
  simp

/-! ## Tables that are there -/

section ForTable

variable {β γ : Type} {f : Entity → LiveTable → List β} {e : Entity} {b : β}

/-- What is planned for an entity whose table is there. -/
def forTable (live : List LiveTable) (f : Entity → LiveTable → List β) (e : Entity) : List β :=
  match LiveTable.find? live e.name with
  | none => []
  | some table => f e table

theorem map_forTable (g : β → γ) :
    (forTable live f e).map g = forTable live (fun e table => (f e table).map g) e := by
  unfold forTable
  cases LiveTable.find? live e.name <;> rfl

theorem mem_forTable (htables : (live.map (·.name)).Nodup) :
    b ∈ forTable live f e ↔ ∃ table ∈ live, table.name = e.name ∧ b ∈ f e table := by
  unfold forTable
  constructor
  · intro hb
    cases hfound : LiveTable.find? live e.name with
    | none => simp [hfound] at hb
    | some table =>
      obtain ⟨ht, hname⟩ := LiveTable.mem_of_find? hfound
      rw [hfound] at hb
      exact ⟨table, ht, hname, hb⟩
  · rintro ⟨table, ht, hname, hb⟩
    have hfound := LiveTable.find?_of_mem htables ht
    rw [hname] at hfound
    rw [hfound]
    exact hb

theorem mem_flatMap_forTable (hentities : (t.entities.map (·.name)).Nodup)
    (htables : (live.map (·.name)).Nodup) :
    b ∈ (dependencyOrder t.entities).flatMap (forTable live f)
      ↔ ∃ e ∈ t.entities, ∃ table ∈ live, table.name = e.name ∧ b ∈ f e table := by
  rw [List.mem_flatMap]
  exact exists_congr fun e => and_congr (mem_ordered hentities) (mem_forTable htables)

/-- What is planned for tables of their own is planned once, if it is for each of them. -/
theorem nodup_flatMap_forTable (hentities : (t.entities.map (·.name)).Nodup)
    (htables : (live.map (·.name)).Nodup)
    (hkey : ∀ e e' table table', ∀ b ∈ f e table, b ∈ f e' table' → e.name = e'.name)
    (hnodup : ∀ e ∈ t.entities, ∀ table ∈ live, (f e table).Nodup) :
    ((dependencyOrder t.entities).flatMap (forTable live f)).Nodup := by
  apply Keyed.nodup_flatMap (nodup_dependencyOrder hentities)
  · intro e he
    unfold forTable
    cases hfound : LiveTable.find? live e.name with
    | none => exact List.nodup_nil
    | some table =>
      exact hnodup e ((mem_ordered hentities).mp he) table (LiveTable.mem_of_find? hfound).1
  · intro e _ e' _ b hb hb'
    obtain ⟨_, -, -, hb⟩ := (mem_forTable htables).mp hb
    obtain ⟨_, -, -, hb'⟩ := (mem_forTable htables).mp hb'
    exact hkey _ _ _ _ b hb hb'

end ForTable

theorem additions_eq (t : Target) (live : List LiveTable) : t.additions live
    = forTable live fun e table =>
      ((t.columns e).filter fun c => !table.hasColumn c.name).map (.addColumn e.name) := rfl

theorem mem_additions (hn : t.Named) (hd : Distinct live) {c : Change} :
    c ∈ (dependencyOrder t.entities).flatMap (t.additions live)
      ↔ ∃ e ∈ t.entities, ∃ table ∈ live, table.name = e.name
        ∧ ∃ column ∈ t.columns e, column.name ∉ table.columns ∧ .addColumn e.name column = c := by
  rw [additions_eq, mem_flatMap_forTable hn.entities hd.tables]
  simp [LiveTable.hasColumn, and_assoc]

/-! ## Indexes -/

/-- The table of a declared index has one of its name that is over other columns or not unique in the
same way. -/
def Changed (live : List LiveTable) (i : Index) : Prop :=
  ∃ table ∈ live, table.name = i.entity ∧ ∃ x ∈ table.indexes, x.name = i.name
    ∧ (x.columns ≠ i.fields ∨ x.unique ≠ i.unique)

/-- An index is created when its table has none of its name, and made again when that is another. -/
theorem indexChanges_cases (hf : Findable live) (i : Index) :
    ((∀ table ∈ live, table.name = i.entity → ∀ x ∈ table.indexes, x.name ≠ i.name)
        ∧ indexChanges live i = [.createIndex i])
      ∨ ((∃ table ∈ live, table.name = i.entity ∧ i.asLive ∈ table.indexes)
        ∧ indexChanges live i = [])
      ∨ (Changed live i ∧ indexChanges live i = [.dropIndex i.name, .createIndex i]) := by
  unfold indexChanges
  cases hfound : (LiveTable.find? live i.entity).bind (·.index? i.name) with
  | none =>
    refine .inl ⟨fun table ht hname => ?_, rfl⟩
    have htable := LiveTable.find?_of_mem hf.tables ht
    rw [hname] at htable
    rw [htable] at hfound
    exact LiveTable.index?_eq_none_iff.mp hfound
  | some existing =>
    obtain ⟨table, htable, hindex⟩ := Option.bind_eq_some_iff.mp hfound
    obtain ⟨ht, hname⟩ := LiveTable.mem_of_find? htable
    obtain ⟨hx, hxname⟩ := (LiveTable.index?_eq_some_iff (hf.indexes table ht)).mp hindex
    by_cases hsame : existing.columns = i.fields ∧ existing.unique = i.unique
    · refine .inr (.inl ⟨⟨table, ht, hname, ?_⟩, by simp [hsame]⟩)
      have hlive : i.asLive = existing := by
        unfold Index.asLive
        rw [← hsame.1, ← hsame.2, ← hxname]
      rw [hlive]
      exact hx
    · refine .inr (.inr ⟨⟨table, ht, hname, existing, hx, hxname, ?_⟩, by simp [hsame]⟩)
      exact Decidable.not_and_iff_or_not.mp hsame

/-- The table of a declared index has it as it is declared. -/
def Held (live : List LiveTable) (i : Index) : Prop :=
  ∃ table ∈ live, table.name = i.entity ∧ i.asLive ∈ table.indexes

theorem Changed.not_held (hf : Findable live) {i : Index} (h : Changed live i) : ¬Held live i := by
  rintro ⟨table, ht, hname, hheld⟩
  obtain ⟨table', ht', hname', x, hx, hxname, hdiffers⟩ := h
  obtain rfl := Keyed.eq_of_key_eq hf.tables ht ht' (hname.trans hname'.symm)
  have hsame : x = i.asLive := Keyed.eq_of_key_eq (hf.indexes table ht) hx hheld hxname
  subst hsame
  simp [Index.asLive] at hdiffers

theorem mem_indexChanges (hf : Findable live) {i : Index} {c : Change} :
    c ∈ indexChanges live i
      ↔ Changed live i ∧ c = .dropIndex i.name ∨ ¬Held live i ∧ c = .createIndex i := by
  obtain ⟨hlacks, hchanges⟩ | ⟨hheld, hchanges⟩ | ⟨hchanged, hchanges⟩ := indexChanges_cases hf i
  · have hunchanged : ¬Changed live i := by
      rintro ⟨table, ht, hname, x, hx, hxname, -⟩
      exact hlacks table ht hname x hx hxname
    have hnot : ¬Held live i := by
      rintro ⟨table, ht, hname, hx⟩
      exact hlacks table ht hname _ hx rfl
    simp [hchanges, hunchanged, hnot]
  · have hunchanged : ¬Changed live i := fun hchanged => hchanged.not_held hf hheld
    have hheld : Held live i := hheld
    simp [hchanges, hunchanged, hheld]
  · simp [hchanges, hchanged, hchanged.not_held hf]

theorem mem_enlargements (hn : t.Named) (hd : Distinct live) {c : Change} :
    c ∈ t.enlargements live
      ↔ (∃ e ∈ t.entities, ∃ table ∈ live, table.name = e.name
        ∧ ∃ column ∈ t.columns e, column.name ∉ table.columns ∧ .addColumn e.name column = c)
      ∨ ∃ i ∈ t.indices,
        Changed live i ∧ c = .dropIndex i.name ∨ ¬Held live i ∧ c = .createIndex i := by
  unfold enlargements
  rw [List.mem_append, mem_additions hn hd, List.mem_flatMap]
  simp only [mem_indexChanges hd.toFindable]

theorem nodup_enlargements (hn : t.Named) (hd : Distinct live) : (t.enlargements live).Nodup := by
  have hadditions : ((dependencyOrder t.entities).flatMap (t.additions live)).Nodup := by
    rw [additions_eq]
    apply nodup_flatMap_forTable hn.entities hd.tables
    · intro e _ _ _ c hc hc'
      obtain ⟨_, -, rfl⟩ := List.mem_map.mp hc
      obtain ⟨_, -, hsame⟩ := List.mem_map.mp hc'
      exact (Change.addColumn.inj hsame).1.symm
    · intro e he table _
      have hcolumns := List.Nodup.of_map _ (nodup_columns hn he)
      exact (hcolumns.filter _).map fun _ _ hsame => (Change.addColumn.inj hsame).2
  have hindexes : (t.indices.flatMap (indexChanges live)).Nodup := by
    apply Keyed.nodup_flatMap hn.indices
    · intro i _
      obtain ⟨-, hchanges⟩ | ⟨-, hchanges⟩ | ⟨-, hchanges⟩ := indexChanges_cases hd.toFindable i
      all_goals simp [hchanges]
    · intro i _ i' _ c hc hc'
      obtain ⟨-, rfl⟩ | ⟨-, rfl⟩ := (mem_indexChanges hd.toFindable).mp hc
      · obtain ⟨-, hsame⟩ | ⟨-, hsame⟩ := (mem_indexChanges hd.toFindable).mp hc'
        · exact Change.dropIndex.inj hsame
        · cases hsame
      · obtain ⟨-, hsame⟩ | ⟨-, hsame⟩ := (mem_indexChanges hd.toFindable).mp hc'
        · cases hsame
        · exact congrArg Index.name (Change.createIndex.inj hsame)
  unfold enlargements
  rw [List.nodup_append]
  refine ⟨hadditions, hindexes, ?_⟩
  rintro c hc _ hc' rfl
  obtain ⟨_, -, _, -, -, _, -, -, rfl⟩ := (mem_additions hn hd).mp hc
  obtain ⟨_, -, hc'⟩ := List.mem_flatMap.mp hc'
  simp [mem_indexChanges hd.toFindable] at hc'

theorem mem_plan_false (hn : t.Named) (hd : Distinct live) {c : Change} :
    c ∈ t.plan live false
      ↔ (∃ e ∈ t.entities, (∀ table ∈ live, table.name ≠ e.name)
        ∧ .createTable e.name (t.columns e) = c)
      ∨ (∃ e ∈ t.entities, ∃ table ∈ live, table.name = e.name
        ∧ ∃ column ∈ t.columns e, column.name ∉ table.columns ∧ .addColumn e.name column = c)
      ∨ ∃ i ∈ t.indices,
        Changed live i ∧ c = .dropIndex i.name ∨ ¬Held live i ∧ c = .createIndex i := by
  rw [plan_false, List.mem_append, mem_creations hn.entities, mem_enlargements hn hd]

theorem exists_of_append_eq {β : Type} {first second before after : List β} {b : β}
    (h : first ++ second = before ++ b :: after) (hb : b ∉ first) :
    ∃ between, second = between ++ b :: after := by
  rw [List.append_eq_append_iff] at h
  obtain ⟨between, -, hsecond⟩ | ⟨between, hfirst, hafter⟩ := h
  · exact ⟨between, hsecond⟩
  · cases between with
    | nil => exact ⟨[], hafter.symm⟩
    | cons b' between =>
      obtain ⟨rfl, -⟩ := List.cons.inj hafter
      exact (hb (by simp [hfirst])).elim

theorem exists_of_append_eq_left {β : Type} {first second before after : List β} {b : β}
    (h : first ++ second = before ++ b :: after) (hb : b ∉ second) :
    ∃ last, first = before ++ b :: last ∧ after = last ++ second := by
  rw [List.append_eq_append_iff] at h
  obtain ⟨between, -, hsecond⟩ | ⟨between, hfirst, hafter⟩ := h
  · exact (hb (by simp [hsecond])).elim
  · cases between with
    | nil =>
      rw [List.nil_append] at hafter
      exact (hb (by simp [← hafter])).elim
    | cons b' between =>
      obtain ⟨rfl, rfl⟩ := List.cons.inj hafter
      exact ⟨between, hfirst, rfl⟩

theorem exists_of_flatMap_eq {α β : Type} {l : List α} {f : α → List β} {before after : List β}
    {b : β} (h : l.flatMap f = before ++ b :: after) :
    ∃ a ∈ l, ∃ first last rest, f a = first ++ b :: last ∧ after = last ++ rest := by
  induction l generalizing before with
  | nil => simp at h
  | cons a l ih =>
    rw [List.flatMap_cons, List.append_eq_append_iff] at h
    obtain ⟨between, -, hrest⟩ | ⟨between, hblock, hafter⟩ := h
    · obtain ⟨a', ha', hsplit⟩ := ih hrest
      exact ⟨a', List.mem_cons_of_mem _ ha', hsplit⟩
    · cases between with
      | nil =>
        have hrest : l.flatMap f = [] ++ b :: after := hafter.symm
        obtain ⟨a', ha', hsplit⟩ := ih hrest
        exact ⟨a', List.mem_cons_of_mem _ ha', hsplit⟩
      | cons b' between =>
        obtain ⟨rfl, rfl⟩ := List.cons.inj hafter
        exact ⟨a, List.mem_cons_self, before, between, l.flatMap f, hblock, rfl⟩

/-- A dropped index is a declared one that has changed, and is created again at once. -/
theorem created_after_drop (hn : t.Named) (hd : Distinct live) {n : String}
    {before after : List Change} (h : t.enlargements live = before ++ .dropIndex n :: after) :
    ∃ i ∈ t.indices, i.name = n ∧ Changed live i ∧ ∃ rest, after = .createIndex i :: rest := by
  have hnone : Change.dropIndex n ∉ (dependencyOrder t.entities).flatMap (t.additions live) := by
    rw [mem_additions hn hd]
    rintro ⟨_, -, _, -, -, _, -, -, hc⟩
    cases hc
  obtain ⟨before', hblock⟩ := exists_of_append_eq h hnone
  obtain ⟨i, hi, first, last, rest, hchanges, hafter⟩ := exists_of_flatMap_eq hblock
  obtain ⟨-, hcreate⟩ | ⟨-, hnothing⟩ | ⟨hchanged, hagain⟩ := indexChanges_cases hd.toFindable i
  · rw [hcreate] at hchanges
    cases first <;> simp at hchanges
  · rw [hnothing] at hchanges
    simp at hchanges
  · rw [hagain] at hchanges
    cases first with
    | nil =>
      obtain ⟨hname, hlast⟩ := List.cons.inj hchanges
      cases hname
      refine ⟨i, hi, rfl, hchanged, rest, ?_⟩
      rw [hafter, ← hlast, List.singleton_append]
    | cons c first =>
      obtain ⟨-, hchanges⟩ := List.cons.inj hchanges
      cases first <;> simp at hchanges

end Schema.Target
end EntityMapper
