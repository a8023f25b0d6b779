import EntityMapper.Proofs.Schema.Undeclared
import EntityMapper.Proofs.Sql.Legible

/-!
# Names in the statements of plans

Whatever tables, columns and indexes are called, the text of a planned statement is read in one way:
as the words of the statement with the names where they belong. So no name can end before its last
character and be taken for words, and no name for another.
-/

namespace EntityMapper

open Text

/-! ## Columns -/

section Columns

open Sql

variable {d : Dialect} {f : Field} {c : ColumnSpec}

/-- The names in the definition of a column: its own, and those of the key it points at. -/
def ColumnSpec.names (c : ColumnSpec) : List String :=
  c.name :: match c.references with
    | none => []
    | some key => [key.target, key.targetKey]

def ColumnSpec.pieces (c : ColumnSpec) : List Piece :=
  [.name c.name, .word " ", .word c.type]
    ++ (if c.primaryKey then [.word " PRIMARY KEY"] else [])
    ++ (if c.autoIncrement then [.word " AUTOINCREMENT"] else [])
    ++ (if c.notNull then [.word " NOT NULL"] else [])
    ++ match c.references with
      | none => []
      | some key =>
        [.word " REFERENCES ", .name key.target, .word " (", .name key.targetKey,
          .word ") ON DELETE ", .word key.onDelete.sql, .word " ON UPDATE ",
          .word key.onUpdate.sql]

theorem ColumnSpec.shows (c : ColumnSpec) : Shows c.pieces c.text := by
  have hflag (b : Bool) (w : String) :
      Shows (if b then [.word w] else []) (if b then w else "") := by
    cases b
    · exact .nil
    · simpa using Shows.nil.word w
  have hcolumn := ((Shows.nil.word c.type).word " ").name c.name
  have hflags := ((hcolumn.append (hflag c.primaryKey " PRIMARY KEY")).append
    (hflag c.autoIncrement " AUTOINCREMENT")).append (hflag c.notNull " NOT NULL")
  unfold pieces text
  cases c.references with
  | none => simpa [String.append_assoc] using hflags
  | some key =>
    have hactions := (((Shows.nil.word key.onUpdate.sql).word " ON UPDATE ").word
      key.onDelete.sql).word ") ON DELETE "
    have hreference := (((hactions.name key.targetKey).word " (").name key.target).word
      " REFERENCES "
    simpa [String.append_assoc] using hflags.append hreference

def Dialect.columnTypes : List String :=
  ["integer", "serial", "text", "numeric", "double precision", "boolean", "date", "timestamptz",
    "jsonb", "blob", "bytea"]

theorem Dialect.type_mem_of_column? (h : d.column? f = some c) : c.type ∈ columnTypes := by
  unfold column? keyType at h
  cases hkind : f.kind with
  | primary format handler =>
    rw [hkind] at h
    cases h
    cases d <;> cases format <;> simp [columnTypes]
  | relation key =>
    rw [hkind] at h
    cases h
    cases key.format <;> simp [columnTypes]
  | virtual =>
    rw [hkind] at h
    cases h
  | _ =>
    rw [hkind] at h
    cases h
    cases d <;> simp [columnTypes]

theorem Dialect.noQuote_type_of_column? (h : d.column? f = some c) : '"' ∉ c.type.toList := by
  have hall : ∀ type ∈ columnTypes, '"' ∉ type.toList := by decide
  exact hall _ (type_mem_of_column? h)

theorem ReferentialAction.noQuote_sql (a : ReferentialAction) : '"' ∉ a.sql.toList := by
  cases a <;> decide

theorem legible_flag (b : Bool) {w : String} (hw : '"' ∉ w.toList) (hne : w ≠ "") :
    Legible (if b then [.word w] else []) ∧ EndsName (if b then [.word w] else []) := by
  cases b
  · exact ⟨.nil, trivial⟩
  · exact ⟨.word hw .nil, hne⟩

theorem legible_columnPieces (h : '"' ∉ c.type.toList) : Legible (ColumnSpec.pieces c) := by
  obtain ⟨hkey, hkeyEnds⟩ := legible_flag c.primaryKey (w := " PRIMARY KEY") (by decide) (by decide)
  obtain ⟨hcounts, hcountsEnds⟩ :=
    legible_flag c.autoIncrement (w := " AUTOINCREMENT") (by decide) (by decide)
  obtain ⟨hset, hsetEnds⟩ := legible_flag c.notNull (w := " NOT NULL") (by decide) (by decide)
  have htype : Legible [.name c.name, .word " ", .word c.type] :=
    .name_word (by decide) (.word (by decide) (.word h .nil))
  have hflags := ((htype.append hkey hkeyEnds).append hcounts hcountsEnds).append hset hsetEnds
  unfold ColumnSpec.pieces
  cases c.references with
  | none => exact hflags.append .nil trivial
  | some key =>
    have hactions : Legible [.word ") ON DELETE ", .word key.onDelete.sql, .word " ON UPDATE ",
        .word key.onUpdate.sql] :=
      .word (by decide) (.word key.onDelete.noQuote_sql (.word (by decide)
        (.word key.onUpdate.noQuote_sql .nil)))
    have hreference := Legible.word (w := " REFERENCES ") (by decide)
      (.name_word (n := key.target) (w := " (") (by decide) (.word (by decide)
        (.name_word (n := key.targetKey) (by decide) hactions)))
    have hends : " REFERENCES " ≠ "" := by decide
    exact hflags.append hreference hends

theorem names_columnPieces (c : ColumnSpec) :
    Quoted.names (items (ColumnSpec.pieces c)) = c.names := by
  have hflag (b : Bool) (w : String) :
      Quoted.names (items (if b then [.word w] else [])) = [] := by
    cases b
    · rfl
    · exact names_items_word w []
  unfold ColumnSpec.pieces ColumnSpec.names
  cases c.references <;>
    simp only [names_items_append, hflag, names_items_name, names_items_word, names_items_nil,
      List.nil_append, List.cons_append]

end Columns

/-! ## Changes -/

namespace Schema

open Sql

namespace Change

variable {c : Change}

def pieces : Change → List Piece
  | createTable table columns =>
    [.word "CREATE TABLE ", .name table, .word " (\n  "]
      ++ separated ",\n  " (columns.map ColumnSpec.pieces) ++ [.word "\n)"]
  | addColumn table column =>
    [.word "ALTER TABLE ", .name table, .word " ADD COLUMN "] ++ column.pieces
  | createIndex i =>
    [.word (if i.unique then "CREATE UNIQUE INDEX " else "CREATE INDEX "), .name i.name,
      .word " ON ", .name i.entity, .word " ("] ++ Sql.names i.fields ++ [.word ")"]
  | dropIndex name => [.word "DROP INDEX ", .name name]
  | dropColumn table column =>
    [.word "ALTER TABLE ", .name table, .word " DROP COLUMN ", .name column]
  | dropTable table => [.word "DROP TABLE ", .name table]

theorem shows (c : Change) : Shows c.pieces c.text := by
  unfold pieces text
  cases c with
  | createTable table columns =>
    have hcolumns := Shows.separated ",\n  " fun c (_ : c ∈ columns) => c.shows
    have hall := (((hcolumns.append (Shows.nil.word "\n)")).word " (\n  ").name table).word
      "CREATE TABLE "
    simpa [String.append_assoc] using hall
  | addColumn table column =>
    simpa [String.append_assoc] using
      ((column.shows.word " ADD COLUMN ").name table).word "ALTER TABLE "
  | createIndex i =>
    have hfields := ((Shows.names i.fields).append (Shows.nil.word ")")).word " ("
    have hall := (((hfields.name i.entity).word " ON ").name i.name).word
      (if i.unique then "CREATE UNIQUE INDEX " else "CREATE INDEX ")
    simpa [String.append_assoc] using hall
  | dropIndex name => simpa using (Shows.nil.name name).word "DROP INDEX "
  | dropColumn table column =>
    have hall := (((Shows.nil.name column).word " DROP COLUMN ").name table).word "ALTER TABLE "
    simpa [String.append_assoc] using hall
  | dropTable table => simpa using (Shows.nil.name table).word "DROP TABLE "

/-- The columns that a change makes. -/
def columns : Change → List ColumnSpec
  | createTable _ columns => columns
  | addColumn _ column => [column]
  | _ => []

/-- The names of tables, columns and indexes that a change is about, in the order of its statement. -/
def names : Change → List String
  | createTable table columns => table :: columns.flatMap ColumnSpec.names
  | addColumn table column => table :: column.names
  | createIndex i => i.name :: i.entity :: i.fields
  | dropIndex name => [name]
  | dropColumn table column => [table, column]
  | dropTable table => [table]

theorem legible_names (ns : List String) : Legible (Sql.names ns) := by
  unfold Sql.names
  refine .separated (by decide) (by decide) fun ps hps => ?_
  obtain ⟨n, -, rfl⟩ := List.mem_map.mp hps
  exact .name trivial .nil

theorem legible_pieces (h : ∀ column ∈ c.columns, '"' ∉ column.type.toList) : Legible c.pieces := by
  cases c with
  | createTable table columns =>
    have hcolumns : Legible (separated ",\n  " (columns.map ColumnSpec.pieces)) := by
      refine .separated (by decide) (by decide) fun ps hps => ?_
      obtain ⟨column, hcolumn, rfl⟩ := List.mem_map.mp hps
      exact legible_columnPieces (h column hcolumn)
    have hend : "\n)" ≠ "" := by decide
    have hlist := hcolumns.append (.word (w := "\n)") (by decide) .nil) hend
    have hall := Legible.word (w := "CREATE TABLE ") (by decide) (.name_word (n := table)
      (w := " (\n  ") (by decide) (.word (by decide) hlist))
    simpa [pieces] using hall
  | addColumn table column =>
    have hcolumn := legible_columnPieces (h column List.mem_cons_self)
    exact .word (by decide) (.name_word (by decide) (.word (by decide) hcolumn))
  | createIndex i =>
    have hend : ")" ≠ "" := by decide
    have hlist := (legible_names i.fields).append (.word (w := ")") (by decide) .nil) hend
    have htable := Legible.name_word (n := i.name) (w := " ON ") (by decide) (.word (by decide)
      (.name_word (n := i.entity) (w := " (") (by decide) (.word (by decide) hlist)))
    have hall := Legible.word (w := if i.unique then "CREATE UNIQUE INDEX " else "CREATE INDEX ")
      (by cases i.unique <;> decide) htable
    simpa [pieces] using hall
  | dropIndex name => exact .word (by decide) (.name trivial .nil)
  | dropColumn table column =>
    exact .word (by decide) (.name_word (by decide) (.word (by decide) (.name trivial .nil)))
  | dropTable table => exact .word (by decide) (.name trivial .nil)

theorem names_pieces (c : Change) : Quoted.names (items c.pieces) = c.names := by
  cases c with
  | createTable table columns =>
    have hcolumns : (columns.map ColumnSpec.pieces).flatMap (fun ps => Quoted.names (items ps))
        = columns.flatMap ColumnSpec.names := by
      simp only [List.flatMap_map, names_columnPieces]
    simp only [pieces, names, names_items_append, names_items_word, names_items_name,
      names_items_nil, names_items_separated, hcolumns, List.append_nil, List.singleton_append]
  | addColumn table column =>
    simp only [pieces, names, names_items_append, names_items_word, names_items_name,
      names_items_nil, names_columnPieces, List.singleton_append]
  | createIndex i =>
    have hfields : Quoted.names (items (Sql.names i.fields)) = i.fields := by
      unfold Sql.names
      rw [names_items_separated, List.flatMap_map]
      exact List.flatMap_singleton' _
    simp only [pieces, names, names_items_append, names_items_word, names_items_name,
      names_items_nil, hfields, List.append_nil, List.cons_append, List.nil_append]
  | _ => rfl

end Change

namespace Target

theorem columns_of_drops {t : Target} {live : List LiveTable} {c : Change}
    (hc : c ∈ t.drops live) : c.columns = [] := by
  rw [drops_eq] at hc
  obtain ⟨o, -, rfl⟩ := List.mem_map.mp hc
  cases o <;> rfl

theorem columns_of_indexChanges {live : List LiveTable} {i : Index} {c : Change}
    (hc : c ∈ indexChanges live i) : c.columns = [] := by
  unfold indexChanges at hc
  split at hc
  · obtain rfl := List.mem_singleton.mp hc
    rfl
  · split at hc
    · cases hc
    · rcases List.mem_cons.mp hc with rfl | hc
      · rfl
      · obtain rfl := List.mem_singleton.mp hc
        rfl

/-- The columns that a plan makes are those of fields. -/
theorem column?_of_plan {t : Target} {live : List LiveTable} {drop : Bool} {c : Change}
    (hc : c ∈ t.plan live drop) : ∀ column ∈ c.columns, ∃ f, t.dialect.column? f = some column := by
  have hdeclared (e : Entity) : ∀ column ∈ t.columns e, ∃ f, t.dialect.column? f = some column := by
    intro column hcolumn
    obtain ⟨f, -, hf⟩ := List.mem_filterMap.mp hcolumn
    exact ⟨f, hf⟩
  unfold plan growth at hc
  simp only [List.mem_append, List.mem_flatMap] at hc
  rcases hc with ((⟨e, -, hc⟩ | ⟨e, -, hc⟩) | ⟨i, -, hc⟩) | hc
  · unfold creation at hc
    split at hc
    · obtain rfl := List.mem_singleton.mp hc
      exact hdeclared e
    · cases hc
  · unfold additions at hc
    split at hc
    · cases hc
    · obtain ⟨column, hcolumn, rfl⟩ := List.mem_map.mp hc
      intro other hother
      obtain rfl := List.mem_singleton.mp hother
      exact hdeclared e other (List.mem_filter.mp hcolumn).1
  · rw [columns_of_indexChanges hc]
    exact List.forall_mem_nil _
  · cases drop with
    | false => cases hc
    | true =>
      rw [columns_of_drops hc]
      exact List.forall_mem_nil _

theorem reads_of_plan {t : Target} {live : List LiveTable} {drop : Bool} {c : Change}
    (hc : c ∈ t.plan live drop) : Quoted.Reads c.statement.sql.toList (items c.pieces) := by
  change Quoted.Reads c.text.toList _
  rw [← c.shows.render t.dialect 1]
  refine Legible.reads (Change.legible_pieces fun column hcolumn => ?_) 1
  obtain ⟨f, hf⟩ := column?_of_plan hc column hcolumn
  exact Dialect.noQuote_type_of_column? hf

/-- A quoted name is read back with what follows it, whatever the name, if that does not begin with a
quote; and different names are different in quotes. So a planned statement is read in one way, as its
words with its names where they belong, and statements with the same text are about the same names. -/
theorem names_stay_in_quotes :
    (∀ (name : String) (rest : List Char), rest.head? ≠ some '"' →
        Quoted.read ((Quoted.quote name).toList ++ rest) = some (name.toList, rest))
      ∧ (∀ name name' : String, name ≠ name' → Quoted.quote name ≠ Quoted.quote name')
      ∧ (∀ (t : Target) live drop, ∀ c ∈ t.plan live drop,
        (∀ read, Quoted.Reads c.statement.sql.toList read ↔ read = items c.pieces)
        ∧ Quoted.names (items c.pieces) = c.names)
      ∧ ∀ (t t' : Target) live live' drop drop', ∀ c ∈ t.plan live drop,
        ∀ c' ∈ t'.plan live' drop', c.statement.sql = c'.statement.sql →
          items c.pieces = items c'.pieces ∧ c.names = c'.names := by
  refine ⟨fun name rest => Quoted.read_quote name, fun _ _ => mt Quoted.quote_injective, ?_, ?_⟩
  · intro t live drop c hc
    refine ⟨fun read => ⟨fun h => h.unique (reads_of_plan hc), ?_⟩, c.names_pieces⟩
    rintro rfl
    exact reads_of_plan hc
  · intro t t' live live' drop drop' c hc c' hc' hsame
    have hread := reads_of_plan hc
    rw [hsame] at hread
    have hitems := hread.unique (reads_of_plan hc')
    refine ⟨hitems, ?_⟩
    rw [← c.names_pieces, ← c'.names_pieces, hitems]

/-- The name of a table has quotes and the words of another statement in it. The table alone is
dropped. -/
theorem names_stay_in_quotes_hostile :
    let name := "notes\"; DROP TABLE \"authors"
    let t : Target := ⟨.sqlite, [], []⟩
    let live : List LiveTable := [⟨name, ["id"], [], []⟩]
    let text := "DROP TABLE \"notes\"\"; DROP TABLE \"\"authors\""
    [' ', '('].head? ≠ some '"'
      ∧ Quoted.read ((Quoted.quote name).toList ++ [' ', '(']) = some (name.toList, [' ', '('])
      ∧ Quoted.quote name ≠ Quoted.quote "notes"
      ∧ Change.dropTable name ∈ t.plan live true
      ∧ (Change.dropTable name).statement.sql = text
      ∧ (∀ read, Quoted.Reads text.toList read → Quoted.names read = [name])
      ∧ ∀ c ∈ t.plan live true, c.statement.sql = text → c.names = [name] := by
  intro name t live text
  obtain ⟨hread, hdistinct, hplan, hsame⟩ := names_stay_in_quotes
  have hrest : [' ', '('].head? ≠ some '"' := by decide
  have hmem : Change.dropTable name ∈ t.plan live true := by decide
  have htext : (Change.dropTable name).statement.sql = text := by decide
  obtain ⟨hitems, hnames⟩ := hplan t live true _ hmem
  refine ⟨hrest, hread name _ hrest, hdistinct _ _ (by decide), hmem, htext, fun read h => ?_,
    fun c hc h => ?_⟩
  · rw [← htext] at h
    rw [(hitems read).mp h, hnames]
    rfl
  · exact (hsame t t live live true true c hc _ hmem (h.trans htext.symm)).2

end Target
end Schema
end EntityMapper
