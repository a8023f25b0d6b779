import EntityMapper.Proofs.Sql.Buffer

/-!
# The phrases of statements

The pieces of a statement follow one small grammar: words of a fixed list, names, parameters, and
pages of two numbers. `Phrase P` is that grammar with names that have the property `P`. Each part of
a command is a phrase when its names have the property, so a command is one.
-/

namespace EntityMapper.Sql

/-- The words of all statements, with the blanks around them. -/
def keywords : List String :=
  ["SELECT ", "SELECT COUNT(*) AS ", " FROM ", " AS ", " LEFT JOIN ", " ON ", " WHERE ", " ORDER BY ",
    " ASC", " DESC", "INSERT INTO ", " DEFAULT VALUES", " (", ") VALUES (", ")", "UPDATE ", " SET ",
    "DELETE FROM ", " RETURNING ", " = ", " <> ", " > ", " >= ", " < ", " <= ", "(", " OR ",
    " IS NULL)", " IS NULL", " IS NOT NULL", " IN (", " NOT IN (", " BETWEEN ", " AND ", "CAST(",
    " AS text)", " LIKE ", ".", ", "]

/-- The two conditions that do not depend on the row. -/
def constants : List String := ["1 = 1", "1 = 0"]

/-- Pieces that may stand right after a parameter: they do not begin with a digit. -/
def Begins : List Piece → Prop
  | .word w :: _ => w ∈ keywords ∨ w = " LIMIT "
  | .number _ :: _ => False
  | _ => True

/-- Pieces as statements are made of them, with names that have the property `P`. -/
inductive Phrase (P : String → Prop) : List Piece → Prop where
  | nil : Phrase P []
  | word {w : String} {ps : List Piece} (hw : w ∈ keywords) : Phrase P ps → Phrase P (.word w :: ps)
  | constant {w : String} {ps : List Piece} (hw : w ∈ constants) :
    Phrase P ps → Phrase P (.word w :: ps)
  | name {n : String} {ps : List Piece} (hn : P n) : Phrase P ps → Phrase P (.name n :: ps)
  | parameter {v : Json} {f : Option Field} {ps : List Piece} (hb : Begins ps) :
    Phrase P ps → Phrase P (.parameter v f :: ps)
  | page {limit offset : Nat} {ps : List Piece} :
    Phrase P ps →
      Phrase P (.word " LIMIT " :: .number limit :: .word " OFFSET " :: .number offset :: ps)

variable {P : String → Prop}

/-! ## Beginnings -/

theorem begins_word {w : String} (hw : w ∈ keywords) (ps : List Piece) : Begins (.word w :: ps) :=
  .inl hw

theorem Begins.append {ps qs : List Piece} (hp : Begins ps) (hq : Begins qs) :
    Begins (ps ++ qs) := by
  cases ps with
  | nil => exact hq
  | cons p ps => cases p <;> exact hp

theorem begins_separated {sep : String} (hs : sep ∈ keywords) {pss : List (List Piece)}
    (h : ∀ ps ∈ pss, Begins ps) : Begins (separated sep pss) := by
  induction pss using separated.induct with
  | case1 => trivial
  | case2 ps => exact h ps List.mem_cons_self
  | case3 ps rest hne _ =>
    rw [separated.eq_3 _ _ _ hne]
    exact (h ps List.mem_cons_self).append (begins_word hs _)

/-! ## Putting phrases together -/

namespace Phrase

theorem append {ps qs : List Piece} (hp : Phrase P ps) (hq : Phrase P qs) (hb : Begins qs) :
    Phrase P (ps ++ qs) := by
  induction hp with
  | nil => exact hq
  | word hw _ ih => exact .word hw ih
  | constant hw _ ih => exact .constant hw ih
  | name hn _ ih => exact .name hn ih
  | parameter hbp _ ih => exact .parameter (hbp.append hb) ih
  | page _ ih => exact .page ih

theorem append_word {w : String} {ps qs : List Piece} (hp : Phrase P ps) (hw : w ∈ keywords)
    (hq : Phrase P qs) : Phrase P (ps ++ .word w :: qs) :=
  hp.append (.word hw hq) (begins_word hw _)

theorem single_name {n : String} (hn : P n) : Phrase P [.name n] := .name hn .nil

theorem separated {sep : String} (hs : sep ∈ keywords) {pss : List (List Piece)}
    (h : ∀ ps ∈ pss, Phrase P ps) : Phrase P (Sql.separated sep pss) := by
  induction pss using Sql.separated.induct with
  | case1 => exact .nil
  | case2 ps => exact h ps List.mem_cons_self
  | case3 ps rest hne ih =>
    rw [Sql.separated.eq_3 _ _ _ hne]
    exact (h ps List.mem_cons_self).append_word hs
      (ih fun qs hq => h qs (List.mem_cons_of_mem _ hq))

theorem names {ns : List String} (h : ∀ n ∈ ns, P n) : Phrase P (Sql.names ns) := by
  unfold Sql.names
  refine separated (by simp [keywords]) ?_
  intro ps hps
  obtain ⟨n, hn, rfl⟩ := List.mem_map.mp hps
  exact single_name (h n hn)

end Phrase

/-! ## Columns and conditions -/

def Column.Named (P : String → Prop) (c : Column) : Prop := (∀ q, c.qualifier = some q → P q) ∧ P c.name

theorem Column.begins (c : Column) : Begins c.pieces := by
  unfold Column.pieces
  split <;> trivial

theorem Column.phrase {c : Column} (h : c.Named P) : Phrase P c.pieces := by
  obtain ⟨hq, hn⟩ := h
  unfold Column.pieces
  split
  · exact .single_name hn
  · rename_i q hc
    exact .name (hq q hc) (.word (by simp [keywords]) (.single_name hn))

theorem Operand.phrase (o : Operand) : Phrase P o.pieces := .parameter trivial .nil

theorem Comparison.keyword (op : Comparison) : " " ++ op.symbol ++ " " ∈ keywords := by
  cases op <;> simp [Comparison.symbol, keywords]

namespace Condition

/-- The column a condition is on; a constant is on none. -/
def column? : Condition → Option Column
  | compare c _ _ | differs c _ | isNull c _ | member c _ _ | between c _ _ | like c _ _ => some c
  | constant _ => none

def operands : Condition → List Operand
  | compare _ _ o | differs _ o | like _ _ o => [o]
  | isNull _ _ | constant _ => []
  | member _ _ os => os
  | between _ low high => [low, high]

def Named (P : String → Prop) (c : Condition) : Prop := ∀ col, c.column? = some col → col.Named P

theorem phrase {c : Condition} (h : c.Named P) : Phrase P c.pieces := by
  cases c with
  | compare c op o =>
    have hc := Column.phrase (h c rfl)
    exact (hc.append_word op.keyword .nil).append o.phrase trivial
  | differs c o =>
    have hc := Column.phrase (h c rfl)
    have hopen : Phrase P ([.word "("] ++ c.pieces ++ [.word " <> "]) :=
      Phrase.append_word (.word (by simp [keywords]) hc) (by simp [keywords]) .nil
    have hor : Phrase P ([.word "("] ++ c.pieces ++ [.word " <> "] ++ o.pieces ++ [.word " OR "]) :=
      (hopen.append o.phrase trivial).append_word (by simp [keywords]) .nil
    exact (hor.append hc c.begins).append_word (by simp [keywords]) .nil
  | isNull c negated =>
    exact (Column.phrase (h c rfl)).append_word (by cases negated <;> simp [keywords]) .nil
  | member c negated os =>
    have hos : Phrase P (separated ", " (os.map Operand.pieces)) := by
      refine .separated (by simp [keywords]) ?_
      intro ps hps
      obtain ⟨o, -, rfl⟩ := List.mem_map.mp hps
      exact o.phrase
    have hbegins : Begins (separated ", " (os.map Operand.pieces)) := by
      refine begins_separated (by simp [keywords]) ?_
      intro ps hps
      obtain ⟨o, -, rfl⟩ := List.mem_map.mp hps
      trivial
    have hin : Phrase P (c.pieces ++ [.word (if negated then " NOT IN (" else " IN (")]) :=
      (Column.phrase (h c rfl)).append_word (by cases negated <;> simp [keywords]) .nil
    exact (hin.append hos hbegins).append_word (by simp [keywords]) .nil
  | constant truth => exact .constant (by cases truth <;> simp [constants]) .nil
  | between c low high =>
    have hlow : Phrase P (c.pieces ++ [.word " BETWEEN "] ++ low.pieces) :=
      ((Column.phrase (h c rfl)).append_word (by simp [keywords]) .nil).append low.phrase trivial
    exact (hlow.append_word (by simp [keywords]) .nil).append high.phrase trivial
  | like c asText pattern =>
    have hc := Column.phrase (h c rfl)
    have hcast : Phrase P
        (if asText then [.word "CAST("] ++ c.pieces ++ [.word " AS text)"] else c.pieces) := by
      split
      · exact Phrase.append_word (.word (by simp [keywords]) hc) (by simp [keywords]) .nil
      · exact hc
    exact (hcast.append_word (by simp [keywords]) .nil).append pattern.phrase trivial

theorem begins_wherePieces (cs : List Condition) : Begins (wherePieces cs) := by
  unfold wherePieces
  split
  · trivial
  · exact begins_word (by simp [keywords]) _

theorem phrase_wherePieces {cs : List Condition} (h : ∀ c ∈ cs, c.Named P) :
    Phrase P (wherePieces cs) := by
  unfold wherePieces
  split
  · exact .nil
  · refine .word (by simp [keywords]) (.separated (by simp [keywords]) ?_)
    intro ps hps
    obtain ⟨c, hc, rfl⟩ := List.mem_map.mp hps
    exact phrase (h c hc)

end Condition

/-! ## Scopes -/

/-- The names that a scope brings into a statement have the property. -/
structure Scope.Named (P : String → Prop) (s : Scope) : Prop where
  main : P mainAlias
  entity : P s.entity.name
  joins : ∀ j ∈ s.joins, P j.entity.name ∧ P j.path.name ∧ P j.path.ourKey ∧ P j.path.theirKey
  columns : ∀ j ∈ s.joins, ∀ f ∈ j.entity.visibleFields, P f.name ∧ P (joinedName j.path.name f.name)

namespace Scope

theorem Named.column {s : Scope} (h : s.Named P) {name : String} (hn : P name) :
    (s.column name).Named P := by
  refine ⟨fun q hq => ?_, hn⟩
  change s.mainQualifier = some q at hq
  unfold mainQualifier at hq
  split at hq
  · cases hq
  · cases hq
    exact h.main

theorem Named.phrase_join {s : Scope} (h : s.Named P) {j : Join} (hj : j ∈ s.joins) :
    Phrase P (s.joinPieces j) := by
  obtain ⟨he, hn, ho, ht⟩ := h.joins j hj
  have halias : (Column.mk (some j.path.name) j.path.theirKey).Named P :=
    ⟨fun q hq => by cases hq; exact hn, ht⟩
  have htables : Phrase P [.word " LEFT JOIN ", .name j.entity.name, .word " AS ",
      .name j.path.name, .word " ON "] :=
    .word (by simp [keywords]) (.name he (.word (by simp [keywords]) (.name hn
      (.word (by simp [keywords]) .nil))))
  have hkeys := htables.append (Column.phrase halias) (Column.begins _)
  exact (hkeys.append_word (by simp [keywords]) .nil).append (Column.phrase (h.column ho))
    (Column.begins _)

theorem Named.phrase_joins {s : Scope} (h : s.Named P) {js : List Join} (hjs : ∀ j ∈ js, j ∈ s.joins) :
    Phrase P (js.flatMap s.joinPieces) ∧ Begins (js.flatMap s.joinPieces) := by
  induction js with
  | nil => exact ⟨.nil, trivial⟩
  | cons j js ih =>
    obtain ⟨hp, hb⟩ := ih fun i hi => hjs i (List.mem_cons_of_mem _ hi)
    rw [List.flatMap_cons]
    exact ⟨(h.phrase_join (hjs j List.mem_cons_self)).append hp hb,
      Begins.append (begins_word (by simp [keywords]) _) hb⟩

theorem Named.phrase_from {s : Scope} (h : s.Named P) : Phrase P s.fromPieces := by
  unfold fromPieces
  obtain ⟨hp, hb⟩ := h.phrase_joins fun j hj => hj
  refine Phrase.append (.name h.entity ?_) hp hb
  split
  · exact .nil
  · exact .word (by simp [keywords]) (.single_name h.main)

theorem Named.phrase_select {s : Scope} (h : s.Named P) {columns : List String}
    (hcolumns : ∀ n ∈ columns, P n) : Phrase P (s.selectPieces columns) := by
  unfold selectPieces
  refine .separated (by simp [keywords]) ?_
  intro ps hps
  rcases List.mem_append.mp hps with hps | hps
  · obtain ⟨n, hn, rfl⟩ := List.mem_map.mp hps
    unfold selectedColumn
    split
    · exact .single_name (hcolumns n hn)
    · exact (Column.phrase (h.column (hcolumns n hn))).append_word (by simp [keywords])
        (.single_name (hcolumns n hn))
  · obtain ⟨j, hj, hps⟩ := List.mem_flatMap.mp hps
    obtain ⟨f, hf, rfl⟩ := List.mem_map.mp hps
    obtain ⟨hfield, hjoined⟩ := h.columns j hj f hf
    have hcolumn : (Column.mk (some j.path.name) f.name).Named P :=
      ⟨fun q hq => by cases hq; exact (h.joins j hj).2.1, hfield⟩
    exact (Column.phrase hcolumn).append_word (by simp [keywords]) (.single_name hjoined)

end Scope

/-! ## Commands -/

namespace Command

def Named (P : String → Prop) : Command → Prop
  | select s columns conditions order _ =>
    s.Named P ∧ (∀ n ∈ columns, P n) ∧ (∀ c ∈ conditions, c.Named P)
      ∧ ∀ o, order = some o → o.1.Named P
  | count s conditions => P "count" ∧ s.Named P ∧ ∀ c ∈ conditions, c.Named P
  | insert table assignments returning =>
    P table ∧ (∀ a ∈ assignments, P a.column) ∧ ∀ n ∈ returning, P n
  | update table assignments conditions returning =>
    P table ∧ (∀ a ∈ assignments, P a.column) ∧ (∀ c ∈ conditions, c.Named P)
      ∧ ∀ n ∈ returning, P n
  | delete table conditions returning =>
    P table ∧ (∀ c ∈ conditions, c.Named P) ∧ ∀ n ∈ returning, P n

theorem phrase_order {order : Option (Column × SortDirection)}
    (h : ∀ o, order = some o → o.1.Named P) : Phrase P (orderPieces order) := by
  unfold orderPieces
  split
  · exact .nil
  · rename_i c direction
    have hc : Phrase P ([.word " ORDER BY "] ++ c.pieces) :=
      .word (by simp [keywords]) (Column.phrase (h _ rfl))
    exact hc.append_word (by cases direction <;> simp [SortDirection.sql, keywords]) .nil

theorem begins_order (order : Option (Column × SortDirection)) : Begins (orderPieces order) := by
  unfold orderPieces
  split
  · trivial
  · exact begins_word (by simp [keywords]) _

theorem phrase_page (page : Option (Nat × Nat)) : Phrase P (pagePieces page) := by
  unfold pagePieces
  split
  · exact .nil
  · exact .page .nil

theorem begins_page (page : Option (Nat × Nat)) : Begins (pagePieces page) := by
  unfold pagePieces
  split
  · trivial
  · exact .inr rfl

theorem phrase_returning {columns : List String} (h : ∀ n ∈ columns, P n) :
    Phrase P (returningPieces columns) :=
  .word (by simp [keywords]) (.names h)

theorem begins_returning (columns : List String) : Begins (returningPieces columns) :=
  begins_word (by simp [keywords]) _

theorem phrase_insert {table : String} {assignments : List Assignment} {returning : List String}
    (htable : P table) (hassignments : ∀ a ∈ assignments, P a.column)
    (hreturning : ∀ n ∈ returning, P n) : Phrase P (insert table assignments returning).pieces := by
  cases assignments with
  | nil =>
    have hvalues : Phrase P [.word "INSERT INTO ", .name table, .word " DEFAULT VALUES"] :=
      .word (by simp [keywords]) (.name htable (.word (by simp [keywords]) .nil))
    exact hvalues.append (phrase_returning hreturning) (begins_returning _)
  | cons a rest =>
    have hnames : Phrase P (names ((a :: rest).map (·.column))) := by
      refine .names ?_
      intro n hn
      obtain ⟨b, hb, rfl⟩ := List.mem_map.mp hn
      exact hassignments b hb
    have hvalues : Phrase P (separated ", " ((a :: rest).map (·.operand.pieces))) := by
      refine .separated (by simp [keywords]) ?_
      intro ps hps
      obtain ⟨b, -, rfl⟩ := List.mem_map.mp hps
      exact b.operand.phrase
    -- the last part stands first, so that each word is put in front of a whole phrase
    have hend := Phrase.append (.word (w := ")") (by simp [keywords]) .nil)
      (phrase_returning hreturning) (begins_returning _)
    have hrow := Phrase.word (w := ") VALUES (") (by simp [keywords])
      (hvalues.append hend (begins_word (by simp [keywords]) _))
    have hcolumns := hnames.append hrow (begins_word (by simp [keywords]) _)
    have hall := Phrase.word (w := "INSERT INTO ") (by simp [keywords])
      (.name htable (.word (w := " (") (by simp [keywords]) hcolumns))
    simpa [pieces] using hall

theorem phrase {c : Command} (h : c.Named P) : Phrase P c.pieces := by
  cases c with
  | select s columns conditions order page =>
    obtain ⟨hs, hcolumns, hconditions, horder⟩ := h
    have hselect : Phrase P ([.word "SELECT "] ++ s.selectPieces columns) :=
      .word (by simp [keywords]) (hs.phrase_select hcolumns)
    have hfrom := (hselect.append_word (w := " FROM ") (by simp [keywords]) .nil).append
      hs.phrase_from trivial
    have hwhere := hfrom.append (Condition.phrase_wherePieces hconditions)
      (Condition.begins_wherePieces _)
    exact (hwhere.append (phrase_order horder) (begins_order _)).append (phrase_page page)
      (begins_page _)
  | count s conditions =>
    obtain ⟨hcount, hs, hconditions⟩ := h
    have hselect : Phrase P
        ([.word "SELECT COUNT(*) AS ", .name "count", .word " FROM "] ++ s.fromPieces) :=
      .word (by simp [keywords]) (.name hcount (.word (by simp [keywords]) hs.phrase_from))
    exact hselect.append (Condition.phrase_wherePieces hconditions) (Condition.begins_wherePieces _)
  | insert table assignments returning =>
    obtain ⟨htable, hassignments, hreturning⟩ := h
    exact phrase_insert htable hassignments hreturning
  | update table assignments conditions returning =>
    obtain ⟨htable, hassignments, hconditions, hreturning⟩ := h
    have hsets : Phrase P (separated ", " (assignments.map assignmentPieces)) := by
      refine .separated (by simp [keywords]) ?_
      intro ps hps
      obtain ⟨a, ha, rfl⟩ := List.mem_map.mp hps
      exact .name (hassignments a ha) (.word (by simp [keywords]) a.operand.phrase)
    have hupdate : Phrase P ([.word "UPDATE ", .name table, .word " SET "]
        ++ separated ", " (assignments.map assignmentPieces)) :=
      .word (by simp [keywords]) (.name htable (.word (by simp [keywords]) hsets))
    exact (hupdate.append (Condition.phrase_wherePieces hconditions)
      (Condition.begins_wherePieces _)).append (phrase_returning hreturning) (begins_returning _)
  | delete table conditions returning =>
    obtain ⟨htable, hconditions, hreturning⟩ := h
    have hdelete : Phrase P ([.word "DELETE FROM ", .name table] ++ Condition.wherePieces conditions) :=
      .word (by simp [keywords]) (.name htable (Condition.phrase_wherePieces hconditions))
    exact hdelete.append (phrase_returning hreturning) (begins_returning _)

end Command
end EntityMapper.Sql
