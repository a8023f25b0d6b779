import EntityMapper.Proofs.Schema.Effect
import EntityMapper.Proofs.Schema.Undeclared

/-!
# Applied plans

When all changes of a plan have been made, nothing is left to be planned: what is declared is there, and
so is all that was there before, or nothing else if it could be dropped.
-/

namespace EntityMapper.Schema

namespace Target

open Change (applyAll reviseAll)

variable {t : Target} {live : List LiveTable} {drop : Bool}

/-! ## What is there in the end -/

/-- Each entity has a table with its columns, and each declared index is on its table. -/
structure Complete (t : Target) (live : List LiveTable) : Prop where
  tables : ∀ e ∈ t.entities, ∃ table ∈ live, table.name = e.name
  columns : ∀ e ∈ t.entities, ∀ table ∈ live, table.name = e.name →
    ∀ n, e.Stores n → n ∈ table.columns
  indexes : ∀ i ∈ t.indices, Held live i

/-- The tables are those of the entities, with their columns and indexes and no others. -/
structure Exact (t : Target) (live : List LiveTable) : Prop where
  tables : (live.map (·.name)).Perm (t.entities.map (·.name))
  columns : ∀ e ∈ t.entities, ∀ table ∈ live, table.name = e.name →
    table.columns.Perm (e.storedFields.map (·.name))
  indexes : ∀ e ∈ t.entities, ∀ table ∈ live, table.name = e.name →
    table.indexes.Perm ((t.indices.filter (·.entity == e.name)).map Index.asLive)

/-- The table is there with all that it had. An index is replaced only by the declared one of its
name. -/
def Keeps (t : Target) (table later : LiveTable) : Prop :=
  later.name = table.name ∧ table.columns ⊆ later.columns ∧ table.references ⊆ later.references
    ∧ ∀ x ∈ table.indexes, x ∈ later.indexes
      ∨ ∃ i ∈ t.indices, i.entity = table.name ∧ i.name = x.name ∧ i.asLive ∈ later.indexes

/-! ## Tables that are created -/

def newTable (t : Target) (e : Entity) : LiveTable :=
  ⟨e.name, (t.columns e).map (·.name), [], Change.referenced (t.columns e)⟩

/-- The tables once all have been created. -/
def base (t : Target) (live : List LiveTable) : List LiveTable :=
  live ++ ((dependencyOrder t.entities).filter fun e =>
    (LiveTable.find? live e.name).isNone).map t.newTable

theorem creations_eq (t : Target) (live : List LiveTable) : t.creations live
    = ((dependencyOrder t.entities).filter fun e => (LiveTable.find? live e.name).isNone).map
      fun e => .createTable e.name (t.columns e) := by
  unfold creations
  induction dependencyOrder t.entities with
  | nil => rfl
  | cons e rest ih =>
    rw [List.flatMap_cons, ih, List.filter_cons]
    unfold creation
    cases LiveTable.find? live e.name <;> simp

theorem applyAll_creations (t : Target) (live : List LiveTable) :
    applyAll (t.creations live) live = t.base live := by
  have hall (es : List Entity) (tables : List LiveTable) :
      applyAll (es.map fun e => .createTable e.name (t.columns e)) tables
        = tables ++ es.map t.newTable := by
    induction es generalizing tables with
    | nil => simp [applyAll]
    | cons e rest ih =>
      rw [List.map_cons]
      change applyAll _ (Change.apply _ tables) = _
      rw [ih]
      simp [Change.apply, newTable]
  rw [creations_eq, hall]
  rfl

theorem mem_base (h : (t.entities.map (·.name)).Nodup) {table : LiveTable} :
    table ∈ t.base live ↔ table ∈ live
      ∨ ∃ e ∈ t.entities, (∀ found ∈ live, found.name ≠ e.name) ∧ t.newTable e = table := by
  unfold base
  simp [mem_ordered h, LiveTable.find?_eq_none_iff, and_assoc]

theorem exists_base (h : (t.entities.map (·.name)).Nodup) {e : Entity} (he : e ∈ t.entities) :
    ∃ table ∈ t.base live, table.name = e.name := by
  by_cases hfound : ∃ table ∈ live, table.name = e.name
  · obtain ⟨table, ht, hname⟩ := hfound
    exact ⟨table, (mem_base h).mpr (.inl ht), hname⟩
  · have hnone : ∀ found ∈ live, found.name ≠ e.name :=
      fun found hfound' hname => hfound ⟨found, hfound', hname⟩
    exact ⟨t.newTable e, (mem_base h).mpr (.inr ⟨e, he, hnone, rfl⟩), rfl⟩

theorem distinct_base (hn : t.Named) (hd : Distinct live) : Distinct (t.base live) := by
  refine ⟨⟨?_, ?_⟩, ?_⟩
  · have hnew : (((dependencyOrder t.entities).filter fun e =>
        (LiveTable.find? live e.name).isNone).map (·.name)).Nodup :=
      (nodup_dependencyOrder hn.entities).sublist (List.filter_sublist.map _)
    unfold base
    rw [List.map_append, List.map_map, List.nodup_append]
    refine ⟨hd.tables, hnew, ?_⟩
    rintro name hlive _ hname rfl
    obtain ⟨table, ht, rfl⟩ := List.mem_map.mp hlive
    obtain ⟨e, he, hsame⟩ := List.mem_map.mp hname
    have hnone : ∀ found ∈ live, found.name ≠ e.name := by
      rw [← LiveTable.find?_eq_none_iff]
      simpa using (List.mem_filter.mp he).2
    exact hnone table ht hsame.symm
  · intro table ht
    obtain ht | ⟨e, he, -, rfl⟩ := (mem_base hn.entities).mp ht
    · exact hd.indexes table ht
    · exact List.nodup_nil
  · intro table ht
    obtain ht | ⟨e, he, -, rfl⟩ := (mem_base hn.entities).mp ht
    · exact hd.columns table ht
    · exact nodup_columns hn he

/-! ## Revisions -/

theorem mem_revisions (hn : t.Named) (hd : Distinct live) {c : Change} :
    c ∈ t.revisions live drop
      ↔ ((∃ e ∈ t.entities, ∃ table ∈ live, table.name = e.name
          ∧ ∃ column ∈ t.columns e, column.name ∉ table.columns ∧ .addColumn e.name column = c)
        ∨ ∃ i ∈ t.indices,
          Changed live i ∧ c = .dropIndex i.name ∨ ¬Held live i ∧ c = .createIndex i)
      ∨ drop = true ∧ ∃ o : Undeclared, o.In t live ∧ o.drop = c := by
  unfold revisions
  rw [List.mem_append, mem_enlargements hn hd]
  cases drop <;> simp [mem_drops hn hd]

theorem createTable_notMem_revisions (hn : t.Named) (hd : Distinct live) (name : String)
    (columns : List ColumnSpec) : .createTable name columns ∉ t.revisions live drop := by
  simp [mem_revisions hn hd]

theorem addColumn_mem_revisions (hn : t.Named) (hd : Distinct live) {name : String}
    {column : ColumnSpec} : .addColumn name column ∈ t.revisions live drop
      ↔ ∃ e ∈ t.entities, ∃ table ∈ live, table.name = e.name
        ∧ column ∈ t.columns e ∧ column.name ∉ table.columns ∧ e.name = name := by
  simp [mem_revisions hn hd]

theorem createIndex_mem_revisions (hn : t.Named) (hd : Distinct live) {i : Index} :
    .createIndex i ∈ t.revisions live drop ↔ i ∈ t.indices ∧ ¬Held live i := by
  simp [mem_revisions hn hd]

theorem dropIndex_mem_revisions (hn : t.Named) (hd : Distinct live) {name : String} :
    .dropIndex name ∈ t.revisions live drop
      ↔ (∃ i ∈ t.indices, Changed live i ∧ name = i.name)
      ∨ drop = true ∧ ∃ owner, (Undeclared.index owner name).In t live := by
  simp [mem_revisions hn hd]

theorem dropColumn_mem_revisions (hn : t.Named) (hd : Distinct live) {name column : String} :
    .dropColumn name column ∈ t.revisions live drop
      ↔ drop = true ∧ (Undeclared.column name column).In t live := by
  simp [mem_revisions hn hd]

theorem dropTable_mem_revisions (hn : t.Named) (hd : Distinct live) {name : String} :
    .dropTable name ∈ t.revisions live drop
      ↔ drop = true ∧ (Undeclared.table name).In t live := by
  simp [mem_revisions hn hd]

/-- Nothing is planned when all that is declared is there and, if the rest may be dropped, there is no
rest. -/
theorem plan_eq_nil (hn : t.Named) (hd : Distinct live) (hcomplete : t.Complete live)
    (hexact : drop = true → t.Exact live) : t.plan live drop = [] := by
  rw [List.eq_nil_iff_forall_not_mem, plan_eq]
  intro c hc
  rcases List.mem_append.mp hc with hc | hc
  · obtain ⟨e, he, hnone, -⟩ := (mem_creations hn.entities).mp hc
    obtain ⟨table, ht, hname⟩ := hcomplete.tables e he
    exact hnone table ht hname
  · obtain (⟨e, he, table, ht, hname, column, hcolumn, hmissing, -⟩ | ⟨i, hi, hindex⟩)
      | ⟨rfl, o, ho, -⟩ := (mem_revisions hn hd).mp hc
    · have hstores : e.Stores column.name := stores_iff_column.mpr ⟨column, hcolumn, rfl⟩
      exact hmissing (hcomplete.columns e he table ht hname column.name hstores)
    · have hheld := hcomplete.indexes i hi
      obtain ⟨hchanged, -⟩ | ⟨hmissing, -⟩ := hindex
      · exact hchanged.not_held hd.toFindable hheld
      · exact hmissing hheld
    · have hexact := hexact rfl
      cases o with
      | index owner name =>
        obtain ⟨e, he, rfl, found, hfound, hname, ⟨x, hx, rfl⟩, hno⟩ := ho
        have hx' := (hexact.indexes e he found hfound hname).subset hx
        obtain ⟨i, hi, rfl⟩ := List.mem_map.mp hx'
        exact hno i (List.mem_filter.mp hi).1 rfl
      | column owner name =>
        obtain ⟨e, he, rfl, found, hfound, hname, hcolumn, hno⟩ := ho
        have hcolumn' := (hexact.columns e he found hfound hname).subset hcolumn
        exact hno (List.mem_map.mp hcolumn')
      | table name =>
        obtain ⟨found, hfound, rfl, hno⟩ := ho
        have hname := hexact.tables.subset (List.mem_map_of_mem hfound)
        obtain ⟨e, he, hname⟩ := List.mem_map.mp hname
        exact hno e he hname

/-- When an index of a declared name is dropped, its creation follows. -/
theorem created_after_revision (hn : t.Named) (hd : Distinct live) {i : Index} (hi : i ∈ t.indices)
    {before after : List Change}
    (h : t.revisions live drop = before ++ .dropIndex i.name :: after) : .createIndex i ∈ after := by
  have hlast : Change.dropIndex i.name ∉ if drop then t.drops live else [] := by
    cases drop with
    | false => simp
    | true =>
      rw [if_pos rfl, mem_drops hn hd]
      rintro ⟨o, ho, hc⟩
      obtain ⟨owner, rfl⟩ := Undeclared.drop_eq_dropIndex.mp hc
      obtain ⟨_, -, -, _, -, -, -, hno⟩ := ho
      exact hno i hi rfl
  obtain ⟨last, hfirst, hafter⟩ := exists_of_append_eq_left h hlast
  obtain ⟨i', hi', hname, -, rest, rfl⟩ := created_after_drop hn hd hfirst
  obtain rfl := Keyed.eq_of_key_eq hn.indices hi' hi hname
  simp [hafter]

/-! ## Tables after the changes -/

/-- The schema when all changes that are planned for it have been made. -/
def applied (t : Target) (live : List LiveTable) (drop : Bool) : List LiveTable :=
  applyAll (t.plan live drop) live

theorem applied_eq (t : Target) (live : List LiveTable) (drop : Bool) :
    t.applied live drop = applyAll (t.revisions live drop) (t.base live) := by
  unfold applied
  rw [plan_eq, Change.applyAll_append, applyAll_creations]

/-- The table is not dropped. -/
def Stays (t : Target) (live : List LiveTable) (drop : Bool) (table : LiveTable) : Prop :=
  ¬(drop = true ∧ (Undeclared.table table.name).In t live)

theorem stays_false (t : Target) (live : List LiveTable) (table : LiveTable) :
    t.Stays live false table := by simp [Stays]

theorem stays_of_name {e : Entity} {table : LiveTable} (he : e ∈ t.entities)
    (hname : table.name = e.name) : t.Stays live drop table := by
  rintro ⟨-, _, -, -, hno⟩
  exact hno e he hname.symm

theorem Stays.exists_entity {table : LiveTable} (h : t.Stays live true table) (ht : table ∈ live) :
    ∃ e ∈ t.entities, e.name = table.name := by
  by_contra hnone
  exact h ⟨rfl, table, ht, rfl, fun e he hname => hnone ⟨e, he, hname⟩⟩

theorem mem_applied (hn : t.Named) (hd : Distinct live) {table : LiveTable} :
    table ∈ t.applied live drop ↔ ∃ found ∈ t.base live,
      t.Stays live drop found ∧ reviseAll (t.revisions live drop) found = table := by
  rw [applied_eq, Change.mem_applyAll (createTable_notMem_revisions hn hd)]
  simp only [dropTable_mem_revisions hn hd]
  rfl

/-- The columns of a table that stays: the declared ones, and its own unless they are dropped. -/
theorem mem_columns_applied (hn : t.Named) (hd : Distinct live) {table : LiveTable}
    (ht : table ∈ t.base live)
    (hstays : t.Stays live drop table) {n : String} :
    n ∈ (reviseAll (t.revisions live drop) table).columns
      ↔ (∃ e ∈ t.entities, e.name = table.name ∧ e.Stores n)
        ∨ drop = false ∧ n ∈ table.columns := by
  constructor
  · intro hmem
    obtain ⟨hn', hdropped⟩ | ⟨column, hadded, rfl⟩ := Change.mem_of_mem_columns hmem
    · obtain ht | ⟨e, he, -, rfl⟩ := (mem_base hn.entities).mp ht
      · rw [dropColumn_mem_revisions hn hd] at hdropped
        cases drop with
        | false => exact .inr ⟨rfl, hn'⟩
        | true =>
          -- the table is an entity's, since it stays: a column that is not stored would be dropped
          obtain ⟨e, he, hname⟩ := hstays.exists_entity ht
          refine .inl ⟨e, he, hname, ?_⟩
          by_contra hno
          exact hdropped ⟨rfl, e, he, hname, table, ht, rfl, hn', hno⟩
      · obtain ⟨column, hcolumn, rfl⟩ := List.mem_map.mp hn'
        exact .inl ⟨e, he, rfl, stores_iff_column.mpr ⟨column, hcolumn, rfl⟩⟩
    · obtain ⟨e, he, _, -, -, hcolumn, -, hname⟩ := (addColumn_mem_revisions hn hd).mp hadded
      exact .inl ⟨e, he, hname, stores_iff_column.mpr ⟨column, hcolumn, rfl⟩⟩
  · rintro (⟨e, he, hname, hstores⟩ | ⟨rfl, hn'⟩)
    · apply Change.column_of_kept
      · rw [dropColumn_mem_revisions hn hd]
        rintro ⟨-, e', he', hname', -, -, -, -, hno⟩
        obtain rfl := Keyed.eq_of_key_eq hn.entities he he' (hname.trans hname'.symm)
        exact hno hstores
      · obtain ⟨column, hcolumn, rfl⟩ := stores_iff_column (t := t).mp hstores
        obtain ht | ⟨e', he', -, rfl⟩ := (mem_base hn.entities).mp ht
        · by_cases hthere : column.name ∈ table.columns
          · exact .inl hthere
          · refine .inr ⟨column, (addColumn_mem_revisions hn hd).mpr ?_, rfl⟩
            exact ⟨e, he, table, ht, hname.symm, hcolumn, hthere, hname⟩
        · obtain rfl := Keyed.eq_of_key_eq hn.entities he he' hname
          exact .inl (List.mem_map_of_mem hcolumn)
    · apply Change.column_of_kept _ (.inl hn')
      rw [dropColumn_mem_revisions hn hd]
      rintro ⟨hdrop, -⟩
      cases hdrop

/-- A declared index is there as it is declared: it is created unless its table has it, and created
again whenever one of its name is dropped. -/
theorem index_of_declared (hn : t.Named) (hd : Distinct live) {table : LiveTable}
    (ht : table ∈ t.base live) {i : Index} (hi : i ∈ t.indices) (hname : i.entity = table.name) :
    i.asLive ∈ (reviseAll (t.revisions live drop) table).indexes := by
  by_cases hheld : Held live i
  · obtain ⟨found, hfound, hname', hx⟩ := hheld
    have hbase : found ∈ t.base live := (mem_base hn.entities).mpr (.inl hfound)
    obtain rfl := Keyed.eq_of_key_eq (distinct_base hn hd).tables hbase ht (hname'.trans hname)
    apply Change.index_of_kept hx
    rw [dropIndex_mem_revisions hn hd]
    rintro (⟨i', hi', hchanged, hsame⟩ | ⟨-, _, _, -, -, _, -, -, -, hno⟩)
    · obtain rfl := Keyed.eq_of_key_eq hn.indices hi hi' hsame
      exact hchanged.not_held hd.toFindable ⟨found, hfound, hname', hx⟩
    · exact hno i hi rfl
  · have hcreated : .createIndex i ∈ t.revisions live drop :=
      (createIndex_mem_revisions hn hd).mpr ⟨hi, hheld⟩
    exact Change.index_of_created hcreated hname fun _ _ => created_after_revision hn hd hi

theorem eq_declared_of_kept (hn : t.Named) (hd : Distinct live) (hown : t.OwnsIndexNames live)
    {table : LiveTable} (ht : table ∈ live) {x : LiveIndex} (hx : x ∈ table.indexes)
    (hkept : .dropIndex x.name ∉ t.revisions live drop) {i : Index} (hi : i ∈ t.indices)
    (hname : i.name = x.name) : i.entity = table.name ∧ i.asLive = x := by
  have hentity : table.name = i.entity := by
    by_contra hother
    exact hown i hi table ht hother x hx hname.symm
  refine ⟨hentity.symm, ?_⟩
  by_contra hne
  have hdiffers : x.columns ≠ i.fields ∨ x.unique ≠ i.unique := by
    rw [← Decidable.not_and_iff_or_not]
    rintro ⟨hcolumns, hunique⟩
    apply hne
    unfold Index.asLive
    rw [hname, ← hcolumns, ← hunique]
  have hchanged : Changed live i := ⟨table, ht, hentity, x, hx, hname.symm, hdiffers⟩
  exact hkept ((dropIndex_mem_revisions hn hd).mpr (.inl ⟨i, hi, hchanged, hname.symm⟩))

/-- The indexes of a table that stays: the declared ones, and those of its own that have another name
unless they are dropped. -/
theorem mem_indexes_applied (hn : t.Named) (hd : Distinct live) (hown : t.OwnsIndexNames live)
    {table : LiveTable} (ht : table ∈ t.base live)
    (hstays : t.Stays live drop table) {x : LiveIndex} :
    x ∈ (reviseAll (t.revisions live drop) table).indexes
      ↔ (∃ i ∈ t.indices, i.entity = table.name ∧ i.asLive = x)
        ∨ drop = false ∧ x ∈ table.indexes ∧ ∀ i ∈ t.indices, i.name ≠ x.name := by
  constructor
  · intro hmem
    obtain ⟨hx, hdropped⟩ | ⟨i, hcreated, hname, rfl⟩ := Change.mem_of_mem_indexes hmem
    · obtain ht | ⟨e, -, -, rfl⟩ := (mem_base hn.entities).mp ht
      · by_cases hdeclared : ∃ i ∈ t.indices, i.name = x.name
        · obtain ⟨i, hi, hname⟩ := hdeclared
          exact .inl ⟨i, hi, eq_declared_of_kept hn hd hown ht hx hdropped hi hname⟩
        · have hno : ∀ i ∈ t.indices, i.name ≠ x.name :=
            fun i hi hname => hdeclared ⟨i, hi, hname⟩
          cases drop with
          | false => exact .inr ⟨rfl, hx, hno⟩
          | true =>
            obtain ⟨e, he, hname⟩ := hstays.exists_entity ht
            rw [dropIndex_mem_revisions hn hd] at hdropped
            refine (hdropped (.inr ⟨rfl, table.name, e, he, hname, table, ht, rfl, ?_, hno⟩)).elim
            exact ⟨x, hx, rfl⟩
      · cases hx
    · exact .inl ⟨i, ((createIndex_mem_revisions hn hd).mp hcreated).1, hname, rfl⟩
  · rintro (⟨i, hi, hname, rfl⟩ | ⟨rfl, hx, hno⟩)
    · exact index_of_declared hn hd ht hi hname
    · apply Change.index_of_kept hx
      rw [dropIndex_mem_revisions hn hd]
      rintro (⟨i, hi, -, hname⟩ | ⟨hdrop, -⟩)
      · exact hno i hi hname.symm
      · cases hdrop

/-- What the revisions add has a name of its own, if two changes that add one name are the same. -/
theorem nodup_added (hn : t.Named) (hd : Distinct live) {adds : Change → Option String}
    (hdrops : ∀ o : Undeclared, adds o.drop = none)
    (hsame : ∀ c ∈ t.revisions live drop, ∀ c' ∈ t.revisions live drop, ∀ name,
      adds c = some name → adds c' = some name → c = c') :
    ((t.revisions live drop).filterMap adds).Nodup := by
  have hlast : (if drop then t.drops live else []).filterMap adds = [] := by
    rw [List.filterMap_eq_nil_iff]
    intro c hc
    cases drop with
    | false => cases hc
    | true =>
      obtain ⟨o, -, rfl⟩ := (mem_drops hn hd).mp hc
      exact hdrops o
  have hfirst : t.enlargements live ⊆ t.revisions live drop := List.subset_append_left _ _
  have hadds : (t.revisions live drop).filterMap adds = (t.enlargements live).filterMap adds := by
    unfold revisions
    rw [List.filterMap_append, hlast, List.append_nil]
  rw [hadds]
  apply List.pairwise_filterMap.mpr
  apply (nodup_enlargements hn hd).pairwise_of_forall_ne
  rintro c hc c' hc' hne name hname _ hname' rfl
  exact hne (hsame c (hfirst hc) c' (hfirst hc') name hname hname')

theorem nodup_added_columns (hn : t.Named) (hd : Distinct live) (name : String) :
    ((t.revisions live drop).filterMap (Change.column? name)).Nodup := by
  apply nodup_added hn hd
  · intro o
    cases o <;> rfl
  · intro c hc c' hc' column hadds hadds'
    obtain ⟨spec, rfl, hspec⟩ := Change.column?_eq_some_iff.mp hadds
    obtain ⟨spec', rfl, hspec'⟩ := Change.column?_eq_some_iff.mp hadds'
    obtain ⟨e, he, _, -, -, hcolumn, -, hname⟩ := (addColumn_mem_revisions hn hd).mp hc
    obtain ⟨e', he', _, -, -, hcolumn', -, hname'⟩ := (addColumn_mem_revisions hn hd).mp hc'
    obtain rfl := Keyed.eq_of_key_eq hn.entities he he' (hname.trans hname'.symm)
    rw [Keyed.eq_of_key_eq (nodup_columns hn he) hcolumn hcolumn' (hspec.trans hspec'.symm)]

theorem nodup_created_names (hn : t.Named) (hd : Distinct live) (name : String) :
    (((t.revisions live drop).filterMap (Change.index? name)).map (·.name)).Nodup := by
  rw [List.map_filterMap]
  apply nodup_added hn hd
  · intro o
    cases o <;> rfl
  · intro c hc c' hc' n hadds hadds'
    obtain ⟨_, hindex, rfl⟩ := Option.map_eq_some_iff.mp hadds
    obtain ⟨_, hindex', hname⟩ := Option.map_eq_some_iff.mp hadds'
    obtain ⟨i, rfl, -, rfl⟩ := Change.index?_eq_some_iff.mp hindex
    obtain ⟨i', rfl, -, rfl⟩ := Change.index?_eq_some_iff.mp hindex'
    have hi := ((createIndex_mem_revisions hn hd).mp hc).1
    have hi' := ((createIndex_mem_revisions hn hd).mp hc').1
    rw [Keyed.eq_of_key_eq hn.indices hi hi' hname.symm]

theorem distinct_applied (hn : t.Named) (hd : Distinct live) (hown : t.OwnsIndexNames live) :
    Distinct (t.applied live drop) := by
  have hbase := distinct_base hn hd
  refine ⟨⟨?_, ?_⟩, ?_⟩
  · rw [applied_eq]
    have hnone : ∀ name columns, .createTable name columns ∉ t.revisions live drop :=
      createTable_notMem_revisions hn hd
    exact hbase.tables.sublist (Change.applyAll_names_sublist hnone (t.base live))
  · intro table ht
    obtain ⟨found, hfound, -, rfl⟩ := (mem_applied hn hd).mp ht
    rw [Change.reviseAll_indexes]
    refine List.Nodup.sublist (amend_sublist.map _) ?_
    rw [List.map_append]
    refine List.nodup_append.mpr ⟨?_, ?_, ?_⟩
    · exact (hbase.indexes found hfound).sublist (List.filter_sublist.map _)
    · exact nodup_created_names hn hd found.name
    -- an old index of the name would be the declared one, which is created only where it is missing
    · rintro n hold _ hnew rfl
      obtain ⟨x, hx, rfl⟩ := List.mem_map.mp hold
      obtain ⟨_, hnew, hname⟩ := List.mem_map.mp hnew
      obtain ⟨c, hc, hindex⟩ := List.mem_filterMap.mp hnew
      obtain ⟨i, rfl, hentity, rfl⟩ := Change.index?_eq_some_iff.mp hindex
      obtain ⟨hi, hmissing⟩ := (createIndex_mem_revisions hn hd).mp hc
      obtain ⟨hx, hkept⟩ := List.mem_filter.mp hx
      have hdropped : .dropIndex x.name ∉ t.revisions live drop := fun hmem =>
        of_decide_eq_true (List.all_eq_true.mp hkept _ hmem) rfl
      obtain hlive | ⟨e, -, -, rfl⟩ := (mem_base hn.entities).mp hfound
      · obtain ⟨-, rfl⟩ := eq_declared_of_kept hn hd hown hlive hx hdropped hi hname
        exact hmissing ⟨found, hlive, hentity.symm, hx⟩
      · cases hx
  · intro table ht
    obtain ⟨found, hfound, -, rfl⟩ := (mem_applied hn hd).mp ht
    rw [Change.reviseAll_columns]
    refine List.Nodup.sublist amend_sublist (List.nodup_append.mpr ⟨?_, ?_, ?_⟩)
    · exact (hbase.columns found hfound).filter _
    · exact nodup_added_columns hn hd found.name
    -- a column is added only where it is missing
    · rintro n hn' _ hadded rfl
      obtain ⟨c, hc, hcolumn⟩ := List.mem_filterMap.mp hadded
      obtain ⟨spec, rfl, rfl⟩ := Change.column?_eq_some_iff.mp hcolumn
      obtain ⟨e, -, table, ht, hname, -, hmissing, hsame⟩ := (addColumn_mem_revisions hn hd).mp hc
      have htable : table ∈ t.base live := (mem_base hn.entities).mpr (.inl ht)
      obtain rfl := Keyed.eq_of_key_eq hbase.tables htable hfound (hname.trans hsame)
      exact hmissing (List.mem_filter.mp hn').1

/-! ## All together -/

theorem complete_applied (hn : t.Named) (hd : Distinct live)
    (hindices : ∀ i ∈ t.indices, ∃ e ∈ t.entities, e.name = i.entity) :
    t.Complete (t.applied live drop) := by
  have htables : ∀ e ∈ t.entities, ∃ found ∈ t.base live, found.name = e.name
      ∧ t.Stays live drop found := by
    intro e he
    obtain ⟨found, hfound, hname⟩ : ∃ found ∈ t.base live, found.name = e.name :=
      exists_base hn.entities he
    exact ⟨found, hfound, hname, stays_of_name he hname⟩
  constructor
  · intro e he
    obtain ⟨found, hfound, hname, hstays⟩ := htables e he
    refine ⟨_, (mem_applied hn hd).mpr ⟨found, hfound, hstays, rfl⟩, ?_⟩
    rw [Change.reviseAll_name, hname]
  · intro e he table ht hname n hstores
    obtain ⟨found, hfound, hstays, rfl⟩ := (mem_applied hn hd).mp ht
    rw [Change.reviseAll_name] at hname
    exact (mem_columns_applied hn hd hfound hstays).mpr (.inl ⟨e, he, hname.symm, hstores⟩)
  · intro i hi
    obtain ⟨e, he, hentity⟩ := hindices i hi
    obtain ⟨found, hfound, hname, hstays⟩ := htables e he
    refine ⟨_, (mem_applied hn hd).mpr ⟨found, hfound, hstays, rfl⟩, ?_, ?_⟩
    · rw [Change.reviseAll_name, hname, hentity]
    · exact index_of_declared hn hd hfound hi (hentity.symm.trans hname.symm)

theorem keeps_applied (hn : t.Named) (hd : Distinct live) (hown : t.OwnsIndexNames live)
    {table : LiveTable} (ht : table ∈ live) : ∃ later ∈ t.applied live false, t.Keeps table later := by
  have hbase : table ∈ t.base live := (mem_base hn.entities).mpr (.inl ht)
  have hstays : t.Stays live false table := stays_false t live table
  refine ⟨_, (mem_applied hn hd).mpr ⟨table, hbase, hstays, rfl⟩, ?_, ?_, ?_, ?_⟩
  · exact Change.reviseAll_name _ table
  · intro n hn'
    exact (mem_columns_applied hn hd hbase hstays).mpr (.inr ⟨rfl, hn'⟩)
  · exact Change.subset_reviseAll_references _ table
  · intro x hx
    by_cases hdeclared : ∃ i ∈ t.indices, i.name = x.name
    · obtain ⟨i, hi, hname⟩ := hdeclared
      have hentity : i.entity = table.name := by
        by_contra hother
        exact hown i hi table ht (Ne.symm hother) x hx hname.symm
      exact .inr ⟨i, hi, hentity, hname, index_of_declared hn hd hbase hi hentity⟩
    · refine .inl ((mem_indexes_applied hn hd hown hbase hstays).mpr (.inr ⟨rfl, hx, ?_⟩))
      exact fun i hi hname => hdeclared ⟨i, hi, hname⟩

theorem exact_applied (hn : t.Named) (hd : Distinct live) (hown : t.OwnsIndexNames live)
    (hindices : ∀ i ∈ t.indices, ∃ e ∈ t.entities, e.name = i.entity) :
    t.Exact (t.applied live true) := by
  have hdistinct : Distinct (t.applied live true) := distinct_applied hn hd hown
  have hcomplete : t.Complete (t.applied live true) := complete_applied hn hd hindices
  constructor
  · rw [List.perm_ext_iff_of_nodup hdistinct.tables hn.entities]
    intro name
    simp only [List.mem_map]
    constructor
    · rintro ⟨table, ht, rfl⟩
      obtain ⟨found, hfound, hstays, rfl⟩ := (mem_applied hn hd).mp ht
      rw [Change.reviseAll_name]
      obtain hlive | ⟨e, he, -, rfl⟩ := (mem_base hn.entities).mp hfound
      · exact hstays.exists_entity hlive
      · exact ⟨e, he, rfl⟩
    · rintro ⟨e, he, rfl⟩
      exact hcomplete.tables e he
  · intro e he table ht hname
    have hfields : (e.storedFields.map (·.name)).Nodup :=
      (hn.fields e he).sublist (List.filter_sublist.map _)
    rw [List.perm_ext_iff_of_nodup (hdistinct.columns table ht) hfields]
    intro n
    obtain ⟨found, hfound, hstays, rfl⟩ := (mem_applied hn hd).mp ht
    rw [Change.reviseAll_name] at hname
    rw [mem_columns_applied hn hd hfound hstays]
    constructor
    · rintro (⟨e', he', hname', hstores⟩ | ⟨hdrop, -⟩)
      · obtain rfl := Keyed.eq_of_key_eq hn.entities he' he (hname'.trans hname)
        exact List.mem_map.mpr hstores
      · cases hdrop
    · exact fun hstores => .inl ⟨e, he, hname.symm, List.mem_map.mp hstores⟩
  · intro e he table ht hname
    have hdeclared : ((t.indices.filter (·.entity == e.name)).map Index.asLive).Nodup := by
      apply List.Nodup.of_map (·.name)
      rw [List.map_map]
      exact hn.indices.sublist (List.filter_sublist.map _)
    rw [List.perm_ext_iff_of_nodup (List.Nodup.of_map _ (hdistinct.indexes table ht)) hdeclared]
    intro x
    obtain ⟨found, hfound, hstays, rfl⟩ := (mem_applied hn hd).mp ht
    rw [Change.reviseAll_name] at hname
    rw [mem_indexes_applied hn hd hown hfound hstays]
    simp [hname, and_assoc]

/-- When all changes of a plan have been made, names are still distinct, all that is declared is
there, and nothing more is planned. Tables keep what they have unless it may be dropped; then nothing
else is left. -/
theorem plan_settles (hn : t.Named) (hd : Distinct live) (hown : t.OwnsIndexNames live)
    (hindices : ∀ i ∈ t.indices, ∃ e ∈ t.entities, e.name = i.entity) :
    (∀ drop, Distinct (t.applied live drop) ∧ t.Complete (t.applied live drop)
        ∧ t.plan (t.applied live drop) drop = [])
      ∧ (∀ table ∈ live, ∃ later ∈ t.applied live false, t.Keeps table later)
      ∧ t.Exact (t.applied live true) := by
  have hexact := exact_applied hn hd hown hindices
  refine ⟨fun drop => ?_, fun table ht => keeps_applied hn hd hown ht, hexact⟩
  have hdistinct : Distinct (t.applied live drop) := distinct_applied hn hd hown
  have hcomplete : t.Complete (t.applied live drop) := complete_applied hn hd hindices
  refine ⟨hdistinct, hcomplete, plan_eq_nil hn hdistinct hcomplete ?_⟩
  rintro rfl
  exact hexact

theorem plan_settles_press :
    press.OwnsIndexNames pressTables
      ∧ (∃ later ∈ press.applied pressTables false, later.name = "old" ∧ "id" ∈ later.columns)
      ∧ press.plan (press.applied pressTables true) true = []
      ∧ (press.applied pressTables true).map (·.name) = ["posts", "authors"] := by
  have hown : press.OwnsIndexNames pressTables := by
    unfold Target.OwnsIndexNames
    decide
  have hindices : ∀ i ∈ press.indices, ∃ e ∈ press.entities, e.name = i.entity := by decide
  obtain ⟨hsettled, hkeeps, -⟩ :=
    plan_settles press_named pressTables_distinct hown hindices
  obtain ⟨later, hlater, hname, hcolumns, -⟩ := hkeeps ⟨"old", ["id"], [], []⟩ (by decide)
  exact ⟨hown, ⟨later, hlater, hname, hcolumns List.mem_cons_self⟩, (hsettled true).2.2, by decide⟩

end Target
end EntityMapper.Schema
