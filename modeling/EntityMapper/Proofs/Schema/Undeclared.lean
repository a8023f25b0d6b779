import EntityMapper.Proofs.Catalog.Reachable
import EntityMapper.Proofs.Schema.Planned

/-!
# What is dropped

Without leave to drop, a plan drops an index only to create it again as it is declared. With it, each
index, column and table that is not declared is dropped once, after all else has been done.
-/

namespace EntityMapper.Schema

/-- Something that a table has, or a table. -/
inductive Undeclared where
  | index (table name : String)
  | column (table name : String)
  | table (name : String)

namespace Undeclared

def drop : Undeclared → Change
  | .index _ name => .dropIndex name
  | .column owner name => .dropColumn owner name
  | .table name => .dropTable name

@[simp] theorem drop_ne_createTable (o : Undeclared) (name : String) (columns : List ColumnSpec) :
    o.drop ≠ .createTable name columns := by cases o <;> simp [drop]

@[simp] theorem drop_ne_addColumn (o : Undeclared) (name : String) (column : ColumnSpec) :
    o.drop ≠ .addColumn name column := by cases o <;> simp [drop]

@[simp] theorem drop_ne_createIndex (o : Undeclared) (i : Index) : o.drop ≠ .createIndex i := by
  cases o <;> simp [drop]

@[simp] theorem drop_eq_dropIndex {o : Undeclared} {name : String} :
    o.drop = .dropIndex name ↔ ∃ owner, o = .index owner name := by cases o <;> simp [drop]

@[simp] theorem drop_eq_dropColumn {o : Undeclared} {owner name : String} :
    o.drop = .dropColumn owner name ↔ o = .column owner name := by cases o <;> simp [drop]

@[simp] theorem drop_eq_dropTable {o : Undeclared} {name : String} :
    o.drop = .dropTable name ↔ o = .table name := by cases o <;> simp [drop]

/-- An index of an entity's table whose name no declared index has, a column of an entity's table that
is no stored field, or a table whose name no entity has. -/
def In (t : Target) (live : List LiveTable) : Undeclared → Prop
  | .index owner name => ∃ e ∈ t.entities, e.name = owner ∧ ∃ found ∈ live, found.name = owner
      ∧ (∃ x ∈ found.indexes, x.name = name) ∧ ∀ i ∈ t.indices, i.name ≠ name
  | .column owner name => ∃ e ∈ t.entities, e.name = owner ∧ ∃ found ∈ live, found.name = owner
      ∧ name ∈ found.columns ∧ ¬e.Stores name
  | .table name => ∃ found ∈ live, found.name = name ∧ ∀ e ∈ t.entities, e.name ≠ name

theorem In.owner_eq {t : Target} {live : List LiveTable} {owner owner' name : String}
    (hindexes : DistinctIndexes live) (h : (index owner name).In t live)
    (h' : (index owner' name).In t live) : owner = owner' := by
  obtain ⟨_, -, -, found, hfound, rfl, ⟨x, hx, rfl⟩, -⟩ := h
  obtain ⟨_, -, -, found', hfound', rfl, ⟨x', hx', hname⟩, -⟩ := h'
  rw [hindexes.eq_of_name hfound hx hfound' hx' hname.symm]

end Undeclared

namespace Target

variable {t : Target} {live : List LiveTable}

def undeclaredIndexes (t : Target) (e : Entity) (table : LiveTable) : List Undeclared :=
  (table.indexes.filter fun i => !t.indices.any (·.name == i.name)).map fun i =>
    .index e.name i.name

def undeclaredColumns (e : Entity) (table : LiveTable) : List Undeclared :=
  (table.columns.filter fun c => (e.storedField? c).isNone).map (.column e.name)

def undeclaredTables (t : Target) (live : List LiveTable) : List LiveTable :=
  live.filter fun table => !t.entities.any (·.name == table.name)

def undeclared (t : Target) (live : List LiveTable) : List Undeclared :=
  (dependencyOrder t.entities).flatMap (forTable live t.undeclaredIndexes)
    ++ (dependencyOrder t.entities).flatMap (forTable live undeclaredColumns)
    ++ (dropOrder (t.undeclaredTables live)).map fun table => .table table.name

theorem drops_eq (t : Target) (live : List LiveTable) :
    t.drops live = (t.undeclared live).map Undeclared.drop := by
  have hindexes : t.staleIndexes live
      = fun e => (forTable live t.undeclaredIndexes e).map Undeclared.drop := by
    funext e
    rw [map_forTable]
    simp only [undeclaredIndexes, List.map_map]
    rfl
  have hcolumns : staleColumns live
      = fun e => (forTable live undeclaredColumns e).map Undeclared.drop := by
    funext e
    rw [map_forTable]
    simp only [undeclaredColumns, List.map_map]
    rfl
  unfold drops undeclared
  simp only [List.map_append, List.map_flatMap, List.map_map, hindexes, hcolumns]
  rfl

/-! ## Each once -/

theorem mem_undeclaredIndexes {e : Entity} {table : LiveTable} {o : Undeclared} :
    o ∈ t.undeclaredIndexes e table
      ↔ ∃ x ∈ table.indexes, (∀ i ∈ t.indices, i.name ≠ x.name) ∧ .index e.name x.name = o := by
  simp [undeclaredIndexes, and_assoc]

theorem mem_undeclaredColumns {e : Entity} {table : LiveTable} {o : Undeclared}
    (hfields : (e.fields.map (·.name)).Nodup) :
    o ∈ undeclaredColumns e table
      ↔ ∃ column ∈ table.columns, ¬e.Stores column ∧ .column e.name column = o := by
  simp [undeclaredColumns, Entity.storedField?_eq_none_iff hfields, and_assoc]

theorem nodup_undeclaredIndexes {e : Entity} {table : LiveTable}
    (h : (table.indexes.map (·.name)).Nodup) : (t.undeclaredIndexes e table).Nodup := by
  have hnames : ((table.indexes.filter fun i => !t.indices.any (·.name == i.name)).map
      (·.name)).Nodup := h.sublist (List.filter_sublist.map _)
  have hmap := hnames.map (f := Undeclared.index e.name) fun _ _ h => (Undeclared.index.inj h).2
  rwa [List.map_map] at hmap

theorem nodup_undeclaredColumns {e : Entity} {table : LiveTable} (h : table.columns.Nodup) :
    (undeclaredColumns e table).Nodup :=
  (h.filter fun c => (e.storedField? c).isNone).map fun _ _ h => (Undeclared.column.inj h).2

/-- The undeclared indexes of all tables. -/
theorem mem_flatMap_undeclaredIndexes (hentities : (t.entities.map (·.name)).Nodup)
    (hf : Findable live) {o : Undeclared} :
    o ∈ (dependencyOrder t.entities).flatMap (forTable live t.undeclaredIndexes)
      ↔ ∃ owner name, o = .index owner name ∧ o.In t live := by
  rw [mem_flatMap_forTable hentities hf.tables]
  constructor
  · rintro ⟨e, he, found, hfound, hname, ho⟩
    obtain ⟨x, hx, hno, rfl⟩ := mem_undeclaredIndexes.mp ho
    exact ⟨e.name, x.name, rfl, e, he, rfl, found, hfound, hname, ⟨x, hx, rfl⟩, hno⟩
  · rintro ⟨_, _, rfl, e, he, rfl, found, hfound, hname, ⟨x, hx, rfl⟩, hno⟩
    exact ⟨e, he, found, hfound, hname, mem_undeclaredIndexes.mpr ⟨x, hx, hno, rfl⟩⟩

theorem nodup_flatMap_undeclaredIndexes (hentities : (t.entities.map (·.name)).Nodup)
    (hf : Findable live) :
    ((dependencyOrder t.entities).flatMap (forTable live t.undeclaredIndexes)).Nodup := by
  apply nodup_flatMap_forTable hentities hf.tables
  · intro e _ table _ o ho ho'
    obtain ⟨_, -, -, rfl⟩ := mem_undeclaredIndexes.mp ho
    obtain ⟨_, -, -, hsame⟩ := mem_undeclaredIndexes.mp ho'
    exact (Undeclared.index.inj hsame).1.symm
  · exact fun e _ table htable => nodup_undeclaredIndexes (hf.indexes table htable)

theorem mem_undeclaredTables {table : LiveTable} :
    table ∈ t.undeclaredTables live ↔ table ∈ live ∧ ∀ e ∈ t.entities, e.name ≠ table.name := by
  simp [undeclaredTables]

theorem nodup_undeclaredTables (hd : Distinct live) :
    ((t.undeclaredTables live).map (·.name)).Nodup := hd.tables.sublist (List.filter_sublist.map _)

theorem mem_undeclared (hn : t.Named) (hd : Distinct live) (o : Undeclared) :
    o ∈ t.undeclared live ↔ o.In t live := by
  unfold undeclared
  rw [List.mem_append, List.mem_append, mem_flatMap_undeclaredIndexes hn.entities hd.toFindable,
    mem_flatMap_forTable hn.entities hd.tables, List.mem_map]
  simp only [(dropOrder_perm (nodup_undeclaredTables hd)).mem_iff, mem_undeclaredTables]
  constructor
  · rintro ((⟨_, _, -, ho⟩ | ⟨e, he, found, hfound, hname, ho⟩) | ⟨found, ⟨hfound, hno⟩, rfl⟩)
    · exact ho
    · obtain ⟨column, hcolumn, hno, rfl⟩ := (mem_undeclaredColumns (hn.fields e he)).mp ho
      exact ⟨e, he, rfl, found, hfound, hname, hcolumn, hno⟩
    · exact ⟨found, hfound, rfl, hno⟩
  · intro ho
    cases o with
    | index owner name => exact .inl (.inl ⟨owner, name, rfl, ho⟩)
    | column owner name =>
      obtain ⟨e, he, rfl, found, hfound, hname, hcolumn, hno⟩ := ho
      have hmem := (mem_undeclaredColumns (hn.fields e he)).mpr ⟨name, hcolumn, hno, rfl⟩
      exact .inl (.inr ⟨e, he, found, hfound, hname, hmem⟩)
    | table name =>
      obtain ⟨found, hfound, rfl, hno⟩ := ho
      exact .inr ⟨found, ⟨hfound, hno⟩, rfl⟩

theorem nodup_undeclared (hn : t.Named) (hd : Distinct live) : (t.undeclared live).Nodup := by
  have hindexes : ((dependencyOrder t.entities).flatMap
      (forTable live t.undeclaredIndexes)).Nodup :=
    nodup_flatMap_undeclaredIndexes hn.entities hd.toFindable
  have hcolumns : ((dependencyOrder t.entities).flatMap
      (forTable live undeclaredColumns)).Nodup := by
    apply nodup_flatMap_forTable hn.entities hd.tables
    · intro e _ table _ o ho ho'
      obtain ⟨_, -, rfl⟩ := List.mem_map.mp ho
      obtain ⟨_, -, hsame⟩ := List.mem_map.mp ho'
      exact (Undeclared.column.inj hsame).1.symm
    · exact fun e _ table htable => nodup_undeclaredColumns (hd.columns table htable)
  have htables : ((dropOrder (t.undeclaredTables live)).map
      fun table => Undeclared.table table.name).Nodup := by
    have hstale := nodup_undeclaredTables (t := t) hd
    have hnames := ((dropOrder_perm hstale).map (·.name)).nodup_iff.mpr hstale
    have hmap := hnames.map (f := Undeclared.table) fun _ _ h => Undeclared.table.inj h
    rwa [List.map_map] at hmap
  unfold undeclared
  rw [List.nodup_append, List.nodup_append]
  refine ⟨⟨hindexes, hcolumns, ?_⟩, htables, ?_⟩
  -- the parts are apart because what they hold is of another kind
  · intro o ho o' ho' hsame
    obtain ⟨_, _, _, _, _, ho⟩ := (mem_flatMap_forTable hn.entities hd.tables).mp ho
    obtain ⟨_, _, _, _, _, ho'⟩ := (mem_flatMap_forTable hn.entities hd.tables).mp ho'
    obtain ⟨_, -, rfl⟩ := List.mem_map.mp ho
    obtain ⟨_, -, rfl⟩ := List.mem_map.mp ho'
    cases hsame
  · intro o ho o' ho' hsame
    obtain ⟨_, -, rfl⟩ := List.mem_map.mp ho'
    subst hsame
    rcases List.mem_append.mp ho with ho | ho
    all_goals
      obtain ⟨_, _, _, _, _, ho⟩ := (mem_flatMap_forTable hn.entities hd.tables).mp ho
      obtain ⟨_, -, ho⟩ := List.mem_map.mp ho
      cases ho

/-! ## All that is dropped -/

theorem mem_drops (hn : t.Named) (hd : Distinct live) {c : Change} :
    c ∈ t.drops live ↔ ∃ o : Undeclared, o.In t live ∧ o.drop = c := by
  rw [drops_eq, List.mem_map]
  exact exists_congr fun o => and_congr_left fun _ => mem_undeclared hn hd o

/-- Where no two indexes have one name, what is dropped differs. -/
theorem nodup_drops (hn : t.Named) (hd : Distinct live) (hindexes : DistinctIndexes live) :
    (t.drops live).Nodup := by
  rw [drops_eq]
  refine List.Nodup.map_on ?_ (nodup_undeclared hn hd)
  intro o ho o' ho' hsame
  have ho := (mem_undeclared hn hd o).mp ho
  have ho' := (mem_undeclared hn hd o').mp ho'
  cases o with
  | index owner name =>
    cases o' with
    | index owner' name' =>
      obtain rfl : name = name' := Change.dropIndex.inj hsame
      rw [ho.owner_eq hindexes ho']
    | _ => cases hsame
  | column owner name =>
    cases o' with
    | column owner' name' =>
      cases hsame
      rfl
    | _ => cases hsame
  | table name =>
    cases o' with
    | table name' =>
      cases hsame
      rfl
    | _ => cases hsame

theorem plan_true (t : Target) (live : List LiveTable) :
    t.plan live true = t.plan live false ++ t.drops live := by
  unfold plan
  simp

theorem drops_nothing (hn : t.Named) (hd : Distinct live) {c : Change}
    (h : c ∈ t.plan live false) :
    (∀ name, c ≠ .dropTable name) ∧ ∀ name column, c ≠ .dropColumn name column := by
  obtain ⟨_, -, -, rfl⟩ | ⟨_, -, _, -, -, _, -, -, rfl⟩ | ⟨_, -, ⟨-, rfl⟩ | ⟨-, rfl⟩⟩ :=
    (mem_plan_false hn hd).mp h
  all_goals simp

/-- What is not declared is dropped once, after the plan that drops nothing of it. That plan drops no
table and no column, and an index only if it is declared otherwise; then it is created again at
once. -/
theorem undeclared_dropped_once (hn : t.Named) (hd : Distinct live) :
    (∃ objects : List Undeclared, objects.Nodup ∧ (∀ o, o ∈ objects ↔ o.In t live)
        ∧ t.plan live true = t.plan live false ++ objects.map Undeclared.drop
        ∧ (DistinctIndexes live → (objects.map Undeclared.drop).Nodup))
      ∧ (∀ name, .dropTable name ∉ t.plan live false)
      ∧ (∀ name column, .dropColumn name column ∉ t.plan live false)
      ∧ ∀ before name after, t.plan live false = before ++ .dropIndex name :: after →
        ∃ i ∈ t.indices, i.name = name ∧ Changed live i ∧ ∃ rest, after = .createIndex i :: rest := by
  refine ⟨⟨t.undeclared live, nodup_undeclared hn hd, mem_undeclared hn hd, ?_, ?_⟩, ?_, ?_, ?_⟩
  · rw [plan_true, drops_eq]
  · intro hindexes
    rw [← drops_eq]
    exact nodup_drops hn hd hindexes
  · exact fun name hmem => (drops_nothing hn hd hmem).1 name rfl
  · exact fun name column hmem => (drops_nothing hn hd hmem).2 name column rfl
  · intro before name after hsplit
    have hnone : Change.dropIndex name ∉ t.creations live := by
      rw [mem_creations hn.entities]
      rintro ⟨_, -, -, hc⟩
      cases hc
    rw [plan_false] at hsplit
    obtain ⟨between, hbetween⟩ := exists_of_append_eq hsplit hnone
    exact created_after_drop hn hd hbetween

open Catalog (authors posts)

/-- Titles are declared to be unique. -/
def press : Target := ⟨.sqlite, [authors, posts], [⟨"titles", "posts", ["title"], true⟩]⟩

/-- There are posts, with drafts that are no longer declared, and no authors. -/
def pressTables : List LiveTable :=
  [⟨"posts", ["id", "title", "draft"],
      [⟨"titles", ["title"], false⟩, ⟨"drafts", ["draft"], false⟩], []⟩,
    ⟨"old", ["id"], [], []⟩]

theorem press_named : press.Named := ⟨by decide, by decide, by decide⟩

theorem pressTables_distinct : Distinct pressTables := ⟨⟨by decide, by decide⟩, by decide⟩

theorem undeclared_dropped_once_press :
    press.Named ∧ Distinct pressTables
      ∧ (∃ objects : List Undeclared, objects.Nodup
        ∧ (∀ o, o ∈ objects ↔ o.In press pressTables)
        ∧ objects.map Undeclared.drop
          = [.dropIndex "drafts", .dropColumn "posts" "draft", .dropTable "old"])
      ∧ ∃ before rest, press.plan pressTables false
        = before ++ .dropIndex "titles" :: .createIndex ⟨"titles", "posts", ["title"], true⟩ :: rest := by
  obtain ⟨⟨objects, hnodup, hmem, hplan, -⟩, -, -, hagain⟩ :=
    undeclared_dropped_once press_named pressTables_distinct
  have hdrops : press.plan pressTables true = press.plan pressTables false
      ++ [.dropIndex "drafts", .dropColumn "posts" "draft", .dropTable "old"] := by decide
  have hsplit : press.plan pressTables false
      = [.createTable "authors" (press.columns authors)] ++ .dropIndex "titles"
        :: [.createIndex ⟨"titles", "posts", ["title"], true⟩] := by decide
  rw [hplan] at hdrops
  obtain ⟨i, hi, -, -, rest, hrest⟩ := hagain _ _ _ hsplit
  obtain rfl := List.mem_singleton.mp hi
  rw [hrest] at hsplit
  exact ⟨press_named, pressTables_distinct, ⟨objects, hnodup, hmem, List.append_cancel_left hdrops⟩,
    _, rest, hsplit⟩

end Target
end EntityMapper.Schema
