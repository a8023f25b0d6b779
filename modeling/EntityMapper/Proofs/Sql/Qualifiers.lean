import EntityMapper.Proofs.Sql.Counting

/-!
# Aliases and qualifiers

The aliases that a FROM clause gives its tables, and the tables that the columns of a statement are
qualified by, read from the pieces of the statement. Every qualifier is the alias of a table.
-/

namespace EntityMapper.Sql

variable {d : Dialect} {s : Scope} {ps qs : List Piece} {w q : String}

/-! ## Reading pieces -/

/-- The names that tables are given by AS. -/
def tableAliases : List Piece → List String
  | .word " AS " :: .name a :: rest => a :: tableAliases rest
  | _ :: rest => tableAliases rest
  | [] => []

/-- The names that stand before the dots of qualified columns. -/
def qualifiers : List Piece → List String
  | .name q :: .word "." :: rest => q :: qualifiers rest
  | _ :: rest => qualifiers rest
  | [] => []

/-- The pieces do not go on a qualified column. -/
def Undotted (ps : List Piece) : Prop := ∀ rest, ps ≠ .word "." :: rest

theorem undotted_word (hw : w ≠ ".") (ps : List Piece) : Undotted (.word w :: ps) :=
  fun _ h => hw (by cases h; rfl)

theorem qualifiers_word (w : String) (ps : List Piece) : qualifiers (.word w :: ps) = qualifiers ps :=
  rfl

theorem qualifiers_append (ps : List Piece) (h : Undotted qs) :
    qualifiers (ps ++ qs) = qualifiers ps ++ qualifiers qs := by
  induction ps using qualifiers.induct with
  | case1 q rest ih => exact congrArg (q :: ·) ih
  | case2 p rest hp ih =>
    -- No name before a dot comes about where the lists meet.
    have hnot : ∀ n more, p = .name n → rest ++ qs = .word "." :: more → False := by
      intro n more hn hmore
      cases rest with
      | nil => exact h more hmore
      | cons r rest =>
        cases hmore
        exact hp n rest hn rfl
    rw [List.cons_append, qualifiers.eq_2 _ _ hnot, ih, qualifiers.eq_2 _ _ hp]
  | case3 => rfl

theorem qualifiers_append_word (ps : List Piece) (hw : w ≠ ".") (qs : List Piece) :
    qualifiers (ps ++ .word w :: qs) = qualifiers ps ++ qualifiers qs := by
  rw [qualifiers_append ps (undotted_word hw qs), qualifiers_word]

theorem qualifiers_separated (hw : w ≠ ".") (pss : List (List Piece)) :
    qualifiers (separated w pss) = pss.flatMap qualifiers := by
  induction pss using separated.induct with
  | case1 => rfl
  | case2 ps => simp [separated]
  | case3 ps rest hne ih =>
    rw [separated.eq_3 _ _ _ hne, qualifiers_append_word ps hw, ih, List.flatMap_cons]

/-! ## Columns and conditions -/

theorem Column.qualifiers_pieces (c : Column) : qualifiers c.pieces = c.qualifier.toList := by
  obtain ⟨_ | q, n⟩ := c <;> rfl

theorem qualifiers_operand (o : Operand) (ps : List Piece) :
    qualifiers (o.pieces ++ ps) = qualifiers ps := rfl

theorem Comparison.symbol_ne (op : Comparison) : " " ++ op.symbol ++ " " ≠ "." := by
  cases op <;> decide

namespace Condition

/-- A condition is qualified as its column is. -/
theorem column_of_qualifier {c : Condition} (h : q ∈ qualifiers c.pieces) :
    ∃ col, c.column? = some col ∧ col.qualifier = some q := by
  cases c with
  | compare col op o =>
    rw [pieces, List.append_assoc, List.singleton_append, qualifiers_append_word _ op.symbol_ne,
      col.qualifiers_pieces] at h
    exact ⟨col, rfl, by simpa [Operand.pieces, qualifiers] using h⟩
  | differs col o =>
    have hpieces : (differs col o).pieces = .word "(" :: (col.pieces ++ .word " <> "
        :: (o.pieces ++ .word " OR " :: (col.pieces ++ [.word " IS NULL)"]))) := by simp [pieces]
    rw [hpieces, qualifiers_word, qualifiers_append_word _ (by decide), qualifiers_operand,
      qualifiers_word, qualifiers_append_word _ (by decide), col.qualifiers_pieces] at h
    exact ⟨col, rfl, by simpa [qualifiers] using h⟩
  | isNull col negated =>
    rw [pieces, qualifiers_append_word _ (by cases negated <;> decide), col.qualifiers_pieces] at h
    exact ⟨col, rfl, by simpa [qualifiers] using h⟩
  | member col negated os =>
    have hos : qualifiers (separated ", " (os.map Operand.pieces)) = [] := by
      rw [qualifiers_separated (by decide)]
      refine List.flatMap_eq_nil_iff.mpr fun ps hps => ?_
      obtain ⟨o, -, rfl⟩ := List.mem_map.mp hps
      rfl
    rw [pieces, qualifiers_append_word _ (by decide), List.append_assoc, List.singleton_append,
      qualifiers_append_word _ (by cases negated <;> decide), hos, col.qualifiers_pieces] at h
    exact ⟨col, rfl, by simpa [qualifiers] using h⟩
  | constant truth => cases h
  | between col low high =>
    have hpieces : (between col low high).pieces
        = col.pieces ++ .word " BETWEEN " :: (low.pieces ++ .word " AND " :: high.pieces) := by
      simp [pieces]
    rw [hpieces, qualifiers_append_word _ (by decide), col.qualifiers_pieces] at h
    exact ⟨col, rfl, by simpa [Operand.pieces, qualifiers] using h⟩
  | like col asText pattern =>
    have hcast : qualifiers (if asText then [.word "CAST("] ++ col.pieces ++ [.word " AS text)"]
        else col.pieces) = col.qualifier.toList := by
      split
      · rw [qualifiers_append_word _ (by decide), List.singleton_append, qualifiers_word,
          col.qualifiers_pieces]
        exact List.append_nil _
      · exact col.qualifiers_pieces
    rw [pieces, List.append_assoc] at h
    change q ∈ qualifiers (_ ++ .word " LIKE " :: pattern.pieces) at h
    rw [qualifiers_append_word _ (by decide), hcast] at h
    exact ⟨col, rfl, by simpa [Operand.pieces, qualifiers] using h⟩

/-- The conditions are joined by words, so that each is qualified as it is alone. -/
theorem mem_of_qualifier_where {cs : List Condition} (h : q ∈ qualifiers (wherePieces cs)) :
    ∃ c ∈ cs, q ∈ qualifiers c.pieces := by
  unfold wherePieces at h
  split at h
  · cases h
  · rw [qualifiers_word, qualifiers_separated (by decide), List.mem_flatMap] at h
    obtain ⟨_, hps, hq⟩ := h
    obtain ⟨c, hc, rfl⟩ := List.mem_map.mp hps
    exact ⟨c, hc, hq⟩

theorem undotted_where (cs : List Condition) (hqs : Undotted qs) : Undotted (wherePieces cs ++ qs) := by
  cases cs with
  | nil => exact hqs
  | cons c cs => exact undotted_word (by decide) _

end Condition

/-! ## Scopes -/

namespace Scope

theorem tableAliases_join (s : Scope) (j : Join) (ps : List Piece) :
    tableAliases (s.joinPieces j ++ ps) = j.path.name :: tableAliases ps := by
  unfold joinPieces column Column.pieces
  cases s.mainQualifier <;> rfl

/-- With joins, the tables are the main one and one under the name of each joined relation. -/
theorem tableAliases_from (s : Scope) :
    tableAliases s.fromPieces = s.mainQualifier.toList ++ s.joins.map (·.path.name) := by
  have hjoins (js : List Join) :
      tableAliases (js.flatMap s.joinPieces) = js.map (·.path.name) := by
    induction js with
    | nil => rfl
    | cons j js ih => rw [List.flatMap_cons, tableAliases_join, ih, List.map_cons]
  rw [← hjoins]
  unfold fromPieces mainQualifier
  split <;> rfl

theorem qualifiers_join (s : Scope) (j : Join) (hps : Undotted ps) :
    qualifiers (s.joinPieces j ++ ps) = j.path.name :: s.mainQualifier.toList ++ qualifiers ps := by
  rw [qualifiers_append _ hps]
  unfold joinPieces column Column.pieces
  cases s.mainQualifier <;> rfl

theorem undotted_joins (s : Scope) (js : List Join) : Undotted (js.flatMap s.joinPieces) := by
  cases js with
  | nil => exact nofun
  | cons j js => exact undotted_word (by decide) _

theorem qualifiers_from (s : Scope) : qualifiers s.fromPieces
    = s.joins.flatMap fun j => j.path.name :: s.mainQualifier.toList := by
  have hjoins (js : List Join) : qualifiers (js.flatMap s.joinPieces)
      = js.flatMap fun j => j.path.name :: s.mainQualifier.toList := by
    induction js with
    | nil => rfl
    | cons j js ih =>
      rw [List.flatMap_cons, qualifiers_join s j (s.undotted_joins js), ih, List.flatMap_cons]
  unfold fromPieces
  rw [qualifiers_append _ (s.undotted_joins _), hjoins]
  split <;> rfl

theorem alias_of_qualifier_from (h : q ∈ qualifiers s.fromPieces) : q ∈ tableAliases s.fromPieces := by
  rw [qualifiers_from] at h
  rw [tableAliases_from, List.mem_append]
  obtain ⟨j, hj, hq⟩ := List.mem_flatMap.mp h
  rcases List.mem_cons.mp hq with rfl | hq
  · exact .inr (List.mem_map_of_mem hj)
  · exact .inl hq

theorem alias_of_qualifier_select {columns : List String} (h : q ∈ qualifiers (s.selectPieces columns)) :
    q ∈ tableAliases s.fromPieces := by
  unfold selectPieces at h
  rw [qualifiers_separated (by decide), List.mem_flatMap] at h
  rw [tableAliases_from, List.mem_append]
  obtain ⟨ps, hps, hq⟩ := h
  rcases List.mem_append.mp hps with hps | hps
  · obtain ⟨n, -, rfl⟩ := List.mem_map.mp hps
    unfold selectedColumn at hq
    split at hq
    · cases hq
    · rw [qualifiers_append_word _ (by decide), (s.column n).qualifiers_pieces] at hq
      exact .inl (by simpa [column, qualifiers] using hq)
  · obtain ⟨j, hj, hps⟩ := List.mem_flatMap.mp hps
    obtain ⟨f, -, rfl⟩ := List.mem_map.mp hps
    obtain rfl := List.mem_singleton.mp hq
    exact .inr (List.mem_map_of_mem hj)

/-- A column that a key resolves to is one of a table of the scope. -/
theorem alias_of_resolve {key : String} {col : Column} {f : Field} (h : s.resolve key = .ok (col, f))
    (hq : col.qualifier = some q) : q ∈ tableAliases s.fromPieces := by
  rw [tableAliases_from, List.mem_append]
  unfold resolve at h
  split at h
  · obtain ⟨f, -, h⟩ := Result.of_bind h
    cases h
    exact .inl (Option.mem_toList.mpr hq)
  · split at h
    · cases h
    · rename_i j hj
      obtain ⟨f, -, h⟩ := Result.of_bind h
      cases h
      cases hq
      have hname : j.path.name = q := by simpa using List.find?_some hj
      exact .inr (List.mem_map.mpr ⟨j, List.mem_of_find?_eq_some hj, hname⟩)

end Scope

/-! ## Commands -/

namespace Command

theorem undotted_page (order : Option (Column × SortDirection)) (page : Option (Nat × Nat)) :
    Undotted (orderPieces order ++ pagePieces page) := by
  cases order with
  | some order => exact undotted_word (by decide) _
  | none =>
    cases page with
    | none => exact nofun
    | some page => exact undotted_word (by decide) _

theorem qualifiers_page (order : Option (Column × SortDirection)) (page : Option (Nat × Nat)) :
    qualifiers (orderPieces order ++ pagePieces page) = (order.bind (·.1.qualifier)).toList := by
  have hpage : qualifiers (pagePieces page) = [] := by cases page <;> rfl
  cases order with
  | none => exact hpage
  | some order =>
    obtain ⟨c, direction⟩ := order
    have hdirection : " " ++ direction.sql ≠ "." := by cases direction <;> decide
    rw [orderPieces, List.append_assoc, List.append_assoc, List.singleton_append, qualifiers_word,
      List.singleton_append, qualifiers_append_word _ hdirection, c.qualifiers_pieces, hpage,
      List.append_nil]
    rfl

/-- The tables and conditions, with what comes before and after them. -/
theorem qualifiers_rows (s : Scope) (conditions : List Condition) (ps : List Piece)
    (hqs : Undotted qs) : qualifiers (ps ++ (rowsPieces s conditions ++ qs))
      = qualifiers ps ++ (qualifiers s.fromPieces
        ++ (qualifiers (Condition.wherePieces conditions) ++ qualifiers qs)) := by
  rw [rowsPieces, List.cons_append, qualifiers_append_word ps (by decide), List.append_assoc,
    qualifiers_append _ (Condition.undotted_where _ hqs), qualifiers_append _ hqs]

theorem alias_of_condition {filter : Filter} {conditions : List Condition}
    (h : Condition.ofFilter d s filter = .ok conditions)
    (hq : q ∈ qualifiers (Condition.wherePieces conditions)) : q ∈ tableAliases s.fromPieces := by
  obtain ⟨c, hc, hq⟩ := Condition.mem_of_qualifier_where hq
  obtain ⟨col, hcol, hq⟩ := Condition.column_of_qualifier hq
  obtain ⟨p, -, resolved, f, hresolve, hop⟩ :=
    Result.exists_of_mem_right (Condition.ofFilter_predicates h) hc
  rw [(Condition.parts_of_ofOperator hop).1 col hcol] at hq
  exact Scope.alias_of_resolve hresolve hq

theorem alias_of_order {key : Option (String × SortDirection)}
    {order : Option (Column × SortDirection)} (h : orderColumn s key = .ok order)
    (hq : order.bind (·.1.qualifier) = some q) : q ∈ tableAliases s.fromPieces := by
  cases key with
  | none =>
    cases h
    cases hq
  | some key =>
    obtain ⟨c, f, hresolve, rfl⟩ := orderColumn_some h
    exact Scope.alias_of_resolve hresolve hq

theorem alias_of_selecting {c : Command} {columns : List String} {filter : Filter}
    {order : Option (String × SortDirection)} {page : Option (Nat × Nat)}
    (h : selecting d s columns filter order page = .ok c) (hq : q ∈ qualifiers c.pieces) :
    q ∈ tableAliases s.fromPieces := by
  obtain ⟨conditions, sort, hconditions, hsort, rfl⟩ := selecting_cases h
  rw [select_pieces, qualifiers_word, qualifiers_rows s conditions _ (undotted_page sort page),
    qualifiers_page] at hq
  simp only [List.mem_append, Option.mem_toList] at hq
  rcases hq with hselect | hfrom | hwhere | horder
  · exact Scope.alias_of_qualifier_select hselect
  · exact Scope.alias_of_qualifier_from hfrom
  · exact alias_of_condition hconditions hwhere
  · exact alias_of_order hsort horder

theorem alias_of_counting {c : Command} {filter : Filter} (h : counting d s filter = .ok c)
    (hq : q ∈ qualifiers c.pieces) : q ∈ tableAliases s.fromPieces := by
  obtain ⟨conditions, hconditions, rfl⟩ := counting_cases h
  have hnil : Undotted [] := nofun
  rw [count_pieces, ← List.append_nil (rowsPieces s conditions), qualifiers_rows s conditions _ hnil]
    at hq
  simp only [List.mem_append] at hq
  rcases hq with hcount | hfrom | hwhere | hend
  · cases hcount
  · exact Scope.alias_of_qualifier_from hfrom
  · exact alias_of_condition hconditions hwhere
  · cases hend

/-- All columns of a command that reads rows are qualified by tables of its scope. -/
theorem ReadsFrom.alias_of_qualifier {c : Command} (h : c.ReadsFrom d s) (hq : q ∈ qualifiers c.pieces) :
    q ∈ tableAliases s.fromPieces := by
  rcases h with ⟨columns, filter, order, page, h⟩ | ⟨filter, h⟩
  · exact alias_of_selecting h hq
  · exact alias_of_counting h hq

end Command
end EntityMapper.Sql
