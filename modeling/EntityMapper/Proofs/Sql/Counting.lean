import EntityMapper.Proofs.Sql.Condition

/-!
# Counting and selecting

Rows are counted over the tables and the conditions that they are selected from. The text that counts
rows and the text that reads a page of them have this part in common, and with it all parameters.
-/

namespace EntityMapper.Sql

variable {d : Dialect} {s : Scope}

namespace Command

/-! ## The rows that are read -/

/-- The tables and the conditions. -/
def rowsPieces (s : Scope) (conditions : List Condition) : List Piece :=
  .word " FROM " :: (s.fromPieces ++ Condition.wherePieces conditions)

theorem count_pieces (s : Scope) (conditions : List Condition) : (count s conditions).pieces
    = [.word "SELECT COUNT(*) AS ", .name "count"] ++ rowsPieces s conditions := by
  simp [pieces, rowsPieces]

theorem select_pieces (s : Scope) (columns : List String) (conditions : List Condition)
    (order : Option (Column × SortDirection)) (page : Option (Nat × Nat)) :
    (select s columns conditions order page).pieces
      = .word "SELECT " :: (s.selectPieces columns
        ++ (rowsPieces s conditions ++ (orderPieces order ++ pagePieces page))) := by
  simp [pieces, rowsPieces]

/-! ## Texts -/

/-- The text that says which rows are read: the tables and the conditions. -/
def rowsText (d : Dialect) (s : Scope) (conditions : List Condition) : String :=
  " FROM " ++ s.fromText ++ ((Condition.whereText d conditions).on []).1

theorem count_statement (d : Dialect) (s : Scope) (conditions : List Condition) :
    (count s conditions).statement d
      = ⟨"SELECT COUNT(*) AS \"count\"" ++ rowsText d s conditions,
        ((Condition.whereText d conditions).on []).2⟩ := by
  unfold statement Building.statement text
  rw [Building.on_bind, Building.on_pure]
  simp only [rowsText, String.append_assoc, Statement.mk.injEq, and_true]
  rfl

theorem select_statement (d : Dialect) (s : Scope) (columns : List String)
    (conditions : List Condition) (order : Option (Column × SortDirection))
    (page : Option (Nat × Nat)) :
    (select s columns conditions order page).statement d
      = ⟨"SELECT " ++ s.selectText columns ++ rowsText d s conditions ++ orderText order
          ++ pageText page, ((Condition.whereText d conditions).on []).2⟩ := by
  unfold statement Building.statement text
  rw [Building.on_bind, Building.on_pure]
  simp only [rowsText, String.append_assoc]

/-- One statement reads a page of rows, the other counts all of these rows: the tables, the conditions
and the parameters are the same. -/
structure SameRows (d : Dialect) (s : Scope) (conditions : List Condition) (limit offset : Nat)
    (page total : Statement) : Prop where
  reads : ∃ columns order, page.sql = "SELECT " ++ s.selectText columns ++ rowsText d s conditions
    ++ orderText (some order) ++ pageText (some (limit, offset))
  counts : total.sql = "SELECT COUNT(*) AS \"count\"" ++ rowsText d s conditions
  parameters : page.parameters = total.parameters

theorem sameRows (d : Dialect) (s : Scope) (columns : List String) (conditions : List Condition)
    (order : Column × SortDirection) (limit offset : Nat) :
    SameRows d s conditions limit offset
      ((select s columns conditions (some order) (some (limit, offset))).statement d)
      ((count s conditions).statement d) := by
  rw [select_statement, count_statement]
  exact ⟨⟨columns, order, rfl⟩, rfl, rfl⟩

/-! ## Making commands -/

theorem selecting_cases {c : Command} {columns : List String} {filter : Filter}
    {order : Option (String × SortDirection)} {page : Option (Nat × Nat)}
    (h : selecting d s columns filter order page = .ok c) :
    ∃ conditions sort, Condition.ofFilter d s filter = .ok conditions ∧ orderColumn s order = .ok sort
      ∧ c = .select s columns conditions sort page := by
  obtain ⟨conditions, hconditions, h⟩ := Result.of_bind h
  obtain ⟨sort, hsort, h⟩ := Result.of_bind h
  cases h
  exact ⟨conditions, sort, hconditions, hsort, rfl⟩

theorem counting_cases {c : Command} {filter : Filter} (h : counting d s filter = .ok c) :
    ∃ conditions, Condition.ofFilter d s filter = .ok conditions ∧ c = .count s conditions := by
  obtain ⟨conditions, hconditions, h⟩ := Result.of_bind h
  cases h
  exact ⟨conditions, hconditions, rfl⟩

theorem counting_eq {conditions : List Condition} {filter : Filter}
    (h : Condition.ofFilter d s filter = .ok conditions) :
    counting d s filter = .ok (.count s conditions) := by
  unfold counting
  rw [h]
  rfl

theorem orderColumn_some {key : String × SortDirection} {order : Option (Column × SortDirection)}
    (h : orderColumn s (some key) = .ok order) :
    ∃ c f, s.resolve key.1 = .ok (c, f) ∧ order = some (c, key.2) := by
  obtain ⟨name, direction⟩ := key
  dsimp only [orderColumn] at h
  split at h
  · cases h
  · rename_i c f hresolve
    cases h
    exact ⟨c, f, hresolve, rfl⟩

/-- The command reads or counts rows of the scope. -/
def ReadsFrom (c : Command) (d : Dialect) (s : Scope) : Prop :=
  (∃ columns filter order page, selecting d s columns filter order page = .ok c)
    ∨ ∃ filter, counting d s filter = .ok c

/-- The tables of a command are those of its scope. -/
theorem ReadsFrom.tables {c : Command} (h : c.ReadsFrom d s) :
    ∃ before after, c.pieces = before ++ .word " FROM " :: (s.fromPieces ++ after) := by
  rcases h with ⟨columns, filter, order, page, h⟩ | ⟨filter, h⟩
  · obtain ⟨conditions, sort, -, -, rfl⟩ := selecting_cases h
    refine ⟨.word "SELECT " :: s.selectPieces columns,
      Condition.wherePieces conditions ++ (orderPieces sort ++ pagePieces page), ?_⟩
    simp [select_pieces, rowsPieces]
  · obtain ⟨conditions, -, rfl⟩ := counting_cases h
    exact ⟨_, _, count_pieces s conditions⟩

/-- Counting asks the same of a filter as selecting does. -/
theorem counting_iff_selecting (d : Dialect) (s : Scope) (columns : List String) (filter : Filter)
    (page : Option (Nat × Nat)) :
    ((∃ c, counting d s filter = .ok c) ↔ ∃ c, selecting d s columns filter none page = .ok c)
      ∧ ∀ conditions, counting d s filter = .ok (.count s conditions)
        ↔ selecting d s columns filter none page = .ok (.select s columns conditions none page) := by
  unfold counting selecting
  cases Condition.ofFilter d s filter with
  | error e => exact ⟨⟨nofun, nofun⟩, fun conditions => ⟨nofun, nofun⟩⟩
  | ok found =>
    refine ⟨⟨fun _ => ⟨_, rfl⟩, fun _ => ⟨_, rfl⟩⟩, fun conditions => ?_⟩
    constructor <;> (intro h; cases h; rfl)

end Command
end EntityMapper.Sql
