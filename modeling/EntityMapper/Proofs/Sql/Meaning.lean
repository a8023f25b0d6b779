import EntityMapper.Proofs.Dict
import EntityMapper.Sql.Command

/-!
# What commands mean

A database holds the rows of tables, decides which conditions a row meets, and puts values in order. It
answers a SELECT from one table with a page of the rows that meet the conditions, and a COUNT with
their number. Rows that no order tells apart may come in any order.
-/

namespace EntityMapper.Sql

/-- What a database holds and decides. A row counts as in order before another also when their values
are alike. -/
structure Database where
  rows : String → List Row
  meets : Condition → Row → Bool
  inOrder : Json → Json → Bool
  /-- A count is an unsigned integer of 64 bits. -/
  countable : ∀ table, (rows table).length ≤ Json.unsignedLimit

/-- The value of a column; a column without a value is null. -/
def cell (row : Row) (column : String) : Json := (row.get? column).getD .null

/-- The row as a SELECT of some columns gives it. -/
def projection (columns : List String) (row : Row) : Row :=
  Dict.ofList (columns.map fun n => (n, cell row n))

namespace Database

/-- The rows of a table that meet all conditions. -/
def matching (db : Database) (table : String) (conditions : List Condition) : List Row :=
  (db.rows table).filter fun row => conditions.all (db.meets · row)

/-- The first row may stand before the second. -/
def Before (db : Database) (column : String) (direction : SortDirection) (row other : Row) : Prop :=
  match direction with
  | .ascending => db.inOrder (cell row column) (cell other column) = true
  | .descending => db.inOrder (cell other column) (cell row column) = true

/-- The same rows, in the order of a column. -/
structure Arranged (db : Database) (column : String) (direction : SortDirection)
    (rows arranged : List Row) : Prop where
  perm : arranged.Perm rows
  sorted : arranged.Pairwise (db.Before column direction)

/-- The row may stand before all others. -/
structure First (db : Database) (column : String) (direction : SortDirection) (rows : List Row)
    (row : Row) : Prop where
  mem : row ∈ rows
  before : ∀ other ∈ rows, other = row ∨ db.Before column direction row other

/-- The rows are an answer to a command that reads a page of one table, or counts its rows. -/
def Answers (db : Database) : Command → List Row → Prop
  | .select ⟨e, []⟩ columns conditions (some (column, direction)) (some (limit, offset)), rows =>
    ∃ arranged, db.Arranged column.name direction (db.matching e.name conditions) arranged
      ∧ rows = ((arranged.drop offset).take limit).map (projection columns)
  | .count ⟨e, []⟩ conditions, rows =>
    rows = [[("count", .int (db.matching e.name conditions).length)]]
  | _, _ => False

variable {db : Database} {column : String} {direction : SortDirection} {rows arranged : List Row}

theorem Arranged.first (h : db.Arranged column direction rows arranged) {row : Row}
    (hrow : arranged[0]? = some row) : db.First column direction rows row := by
  obtain ⟨rest, rfl⟩ : ∃ rest, arranged = row :: rest := by
    cases arranged with
    | nil => cases hrow
    | cons first rest =>
      cases hrow
      exact ⟨rest, rfl⟩
  refine ⟨h.perm.subset List.mem_cons_self, fun other hother => ?_⟩
  rcases List.mem_cons.mp (h.perm.symm.subset hother) with rfl | hrest
  · exact .inl rfl
  · exact .inr ((List.pairwise_cons.mp h.sorted).1 other hrest)

theorem length_matching (db : Database) (table : String) (conditions : List Condition) :
    (db.matching table conditions).length ≤ Json.unsignedLimit :=
  Nat.le_trans (List.length_filter_le _ _) (db.countable table)

end Database

theorem get?_projection {columns : List String} {n : String} (h : n ∈ columns) (row : Row) :
    Dict.get? (projection columns row) n = some (cell row n) := by
  have hthere : Dict.contains (projection columns row) n = true := by
    unfold projection
    rw [Dict.contains_ofList, List.map_map]
    exact List.mem_map.mpr ⟨n, h, rfl⟩
  obtain ⟨v, hv⟩ := Option.isSome_iff_exists.mp hthere
  obtain ⟨n', -, hentry⟩ := List.mem_map.mp (Dict.mem_of_mem_ofList (Dict.mem_of_get? hv))
  cases hentry
  exact hv

end EntityMapper.Sql
