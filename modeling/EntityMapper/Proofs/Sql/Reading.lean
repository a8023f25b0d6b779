import EntityMapper.Proofs.Sql.Lexing
import EntityMapper.Proofs.Sql.Truth

/-!
# Reading conditions

The WHERE clause of a statement, read as SQL: tests on columns are evaluated as they are read, OR
joins tests inside parentheses, and AND joins the whole. What is read from the text of conditions and
its parameters is their truth.
-/

namespace EntityMapper.Sql

/-! ## The reader

Each reader gives what it has read and the symbols that follow. -/

def readColumn : List Symbol → Option (Column × List Symbol)
  | .name q :: .word "." :: .name n :: rest => some (⟨some q, n⟩, rest)
  | .name n :: rest => some (⟨none, n⟩, rest)
  | _ => none

def readCell : List Symbol → Option (Cell × List Symbol)
  | .value v :: rest => (cell? v).map (·, rest)
  | _ => none

/-- Cells with commas between them, up to the closing parenthesis. -/
def readCells : List Symbol → Option (List Cell × List Symbol)
  | .value v :: .word ")" :: rest => (cell? v).map ([·], rest)
  | .value v :: .word "," :: rest => do
    let b ← cell? v
    let (bs, rest) ← readCells rest
    return (b :: bs, rest)
  | _ => none

def comparison? : String → Option Comparison
  | "=" => some .eq
  | ">" => some .gt
  | ">=" => some .gte
  | "<" => some .lt
  | "<=" => some .lte
  | _ => none

/-- What follows a column, which has the given cell. -/
def readTest (a : Cell) : List Symbol → Option (Truth × List Symbol)
  | .word "IS" :: .word "NULL" :: rest => some (.ofBool a.isNone, rest)
  | .word "IS" :: .word "NOT" :: .word "NULL" :: rest => some (.ofBool a.isSome, rest)
  | .word "IN" :: .word "(" :: rest => do
    let (bs, rest) ← readCells rest
    return (.among a bs, rest)
  | .word "NOT" :: .word "IN" :: .word "(" :: rest => do
    let (bs, rest) ← readCells rest
    return ((Truth.among a bs).not, rest)
  | .word "BETWEEN" :: rest => do
    match ← readCell rest with
    | (low, .word "AND" :: rest) => do
      let (high, rest) ← readCell rest
      return (.within a low high, rest)
    | _ => none
  | .word "<>" :: rest => do
    let (b, rest) ← readCell rest
    return ((Truth.compare .eq a b).not, rest)
  | .word w :: rest => do
    let op ← comparison? w
    let (b, rest) ← readCell rest
    return (.compare op a b, rest)
  | _ => none

variable (row : Column → Cell)

/-- At most `n` tests on columns with OR between them. -/
def readOr : (n : Nat) → List Symbol → Option (Truth × List Symbol)
  | 0, _ => none
  | n + 1, ts => do
    let (c, rest) ← readColumn ts
    match ← readTest (row c) rest with
    | (t, .word "OR" :: rest) => do
      let (u, rest) ← readOr n rest
      return (t.or u, rest)
    | (t, rest) => return (t, rest)

/-- A constant, tests in parentheses, or a test. -/
def readFactor : List Symbol → Option (Truth × List Symbol)
  | .word "1" :: .word "=" :: .word "1" :: rest => some (.holds, rest)
  | .word "1" :: .word "=" :: .word "0" :: rest => some (.fails, rest)
  | .word "(" :: rest => do
    match ← readOr row rest.length rest with
    | (t, .word ")" :: rest) => return (t, rest)
    | _ => none
  | ts => do
    let (c, rest) ← readColumn ts
    readTest (row c) rest

/-- At most `n` factors with AND between them. -/
def readAnd : (n : Nat) → List Symbol → Option (Truth × List Symbol)
  | 0, _ => none
  | n + 1, ts => do
    match ← readFactor row ts with
    | (t, .word "AND" :: rest) => do
      let (u, rest) ← readAnd n rest
      return (t.and u, rest)
    | (t, rest) => return (t, rest)

/-- The truth of a WHERE clause in a row. Without one every row is kept. -/
def readWhere : List Symbol → Option Truth
  | [] => some .holds
  | .word "WHERE" :: rest => do
    match ← readAnd row rest.length rest with
    | (t, []) => return t
    | _ => none
  | _ => none

/-! ## Reading what is written -/

variable {row}

theorem readColumn_symbols (c : Column) {w : String} (hw : w ≠ ".") (rest : List Symbol) :
    readColumn (symbols c.pieces ++ .word w :: rest) = some (c, .word w :: rest) := by
  obtain ⟨qualifier, n⟩ := c
  cases qualifier with
  | none =>
    change readColumn (.name n :: .word w :: rest) = _
    unfold readColumn
    split
    · rename_i h
      cases h
      exact absurd rfl hw
    · rename_i h
      cases h
      rfl
    · rename_i h
      exact absurd rfl (h n (.word w :: rest))
  | some q => rfl

theorem readCells_symbols {os : List Operand} {bs : List Cell} (hne : os ≠ [])
    (h : os.mapM (cell? ·.value) = some bs) (rest : List Symbol) :
    readCells (symbols (separated ", " (os.map Operand.pieces)) ++ .word ")" :: rest)
      = some (bs, rest) := by
  induction os generalizing bs with
  | nil => exact absurd rfl hne
  | cons o os ih =>
    rw [List.mapM_cons] at h
    obtain ⟨b, hb, h⟩ := Option.bind_eq_some_iff.mp h
    obtain ⟨more, hmore, h⟩ := Option.bind_eq_some_iff.mp h
    cases h
    cases os with
    | nil =>
      cases hmore
      change readCells (.value o.value :: .word ")" :: rest) = _
      rw [readCells, hb]
      rfl
    | cons o' os =>
      have hrest := ih (by simp) hmore
      change readCells (.value o.value :: .word "," ::
        (symbols (separated ", " ((o' :: os).map Operand.pieces)) ++ .word ")" :: rest)) = _
      rw [readCells, hb]
      simp only [Option.bind_eq_bind, Option.bind_some, hrest]
      rfl

theorem readTest_compare {op : Comparison} {v : Json} {b : Cell} (h : cell? v = some b) (a : Cell)
    (rest : List Symbol) :
    readTest a (.word op.symbol :: .value v :: rest) = some (.compare op a b, rest) := by
  cases op <;> simp [readTest, Comparison.symbol, comparison?, readCell, h]

theorem readFactor_column (c : Column) {w : String} (hw : w ≠ ".") (rest : List Symbol) :
    readFactor row (symbols c.pieces ++ .word w :: rest) = readTest (row c) (.word w :: rest) := by
  have hstart : ∃ n more, symbols c.pieces ++ .word w :: rest = .name n :: more := by
    obtain ⟨qualifier, n⟩ := c
    cases qualifier with
    | none => exact ⟨n, _, rfl⟩
    | some q => exact ⟨q, _, rfl⟩
  have hcolumn := readColumn_symbols c hw rest
  obtain ⟨n, more, hmore⟩ := hstart
  rw [hmore] at hcolumn ⊢
  simp only [readFactor, hcolumn, Option.bind_eq_bind, Option.bind_some]

theorem symbols_compare (c : Column) (op : Comparison) (o : Operand) :
    symbols (Condition.compare c op o).pieces
      = symbols c.pieces ++ [.word op.symbol, .value o.value] := by
  simp only [Condition.pieces, symbols_append, List.append_assoc]
  cases op <;> rfl

theorem symbols_differs (c : Column) (o : Operand) :
    symbols (Condition.differs c o).pieces
      = .word "(" :: (symbols c.pieces ++ .word "<>" :: .value o.value :: .word "OR" ::
        (symbols c.pieces ++ [.word "IS", .word "NULL", .word ")"])) := by
  simp only [Condition.pieces, symbols_append, List.append_assoc]
  rfl

theorem symbols_isNull (c : Column) (negated : Bool) :
    symbols (Condition.isNull c negated).pieces
      = symbols c.pieces ++ .word "IS" ::
        (if negated then [.word "NOT", .word "NULL"] else [.word "NULL"]) := by
  simp only [Condition.pieces, symbols_append]
  cases negated <;> rfl

theorem symbols_member (c : Column) (negated : Bool) (os : List Operand) :
    symbols (Condition.member c negated os).pieces
      = symbols c.pieces ++ ((if negated then [.word "NOT", .word "IN"] else [.word "IN"])
        ++ .word "(" :: (symbols (separated ", " (os.map Operand.pieces)) ++ [.word ")"])) := by
  simp only [Condition.pieces, symbols_append, List.append_assoc]
  cases negated <;> rfl

theorem symbols_between (c : Column) (low high : Operand) :
    symbols (Condition.between c low high).pieces
      = symbols c.pieces ++ [.word "BETWEEN", .value low.value, .word "AND", .value high.value] := by
  simp only [Condition.pieces, symbols_append, List.append_assoc]
  rfl

/-- The tests that stand for a difference from a value, as they are read inside parentheses. -/
theorem readOr_differs (c : Column) {v : Json} {b : Cell} (hb : cell? v = some b) {n : Nat}
    (hn : 2 ≤ n) (rest : List Symbol) :
    readOr row n (symbols c.pieces ++ .word "<>" :: .value v :: .word "OR" ::
        (symbols c.pieces ++ .word "IS" :: .word "NULL" :: .word ")" :: rest))
      = some ((Truth.compare .eq (row c) b).not.or (.ofBool (row c).isNone), .word ")" :: rest) := by
  obtain ⟨n, rfl⟩ := Nat.exists_eq_add_of_le' hn
  have hsecond : readOr row (n + 1)
      (symbols c.pieces ++ .word "IS" :: .word "NULL" :: .word ")" :: rest)
        = some (.ofBool (row c).isNone, .word ")" :: rest) := by
    simp [readOr, readColumn_symbols, readTest]
  rw [readOr, readColumn_symbols c (by decide)]
  simp [readTest, readCell, hb, hsecond]

/-- The truth of a condition is read from its pieces, whatever follows. -/
theorem readFactor_symbols {c : Condition} {t : Truth} (h : c.truth? row = some t)
    (rest : List Symbol) : readFactor row (symbols c.pieces ++ rest) = some (t, rest) := by
  cases c with
  | compare c op o =>
    obtain ⟨b, hb, rfl⟩ := Option.map_eq_some_iff.mp h
    rw [symbols_compare, List.append_assoc]
    exact (readFactor_column c (by cases op <;> decide) _).trans (readTest_compare hb _ _)
  | differs c o =>
    obtain ⟨b, hb, rfl⟩ := Option.map_eq_some_iff.mp h
    rw [symbols_differs, List.cons_append, List.append_assoc]
    simp only [List.cons_append, List.append_assoc, List.nil_append, readFactor]
    rw [readOr_differs c hb (by simp; omega)]
    rfl
  | isNull c negated =>
    cases h
    rw [symbols_isNull, List.append_assoc]
    refine (readFactor_column c (by decide) _).trans ?_
    cases negated <;> simp [readTest]
  | member c negated os =>
    cases os with
    | nil => cases h
    | cons o os =>
      obtain ⟨bs, hbs, rfl⟩ := Option.map_eq_some_iff.mp h
      have hcells := readCells_symbols (by simp) hbs rest
      rw [List.map_cons] at hcells
      rw [symbols_member, List.append_assoc]
      cases negated with
      | false =>
        refine (readFactor_column c (by decide) _).trans ?_
        simp [readTest, hcells]
      | true =>
        refine (readFactor_column c (by decide) _).trans ?_
        simp [readTest, hcells]
  | constant truth =>
    cases h
    cases truth <;> rfl
  | between c low high =>
    obtain ⟨l, hl, h⟩ := Option.bind_eq_some_iff.mp h
    obtain ⟨u, hu, h⟩ := Option.bind_eq_some_iff.mp h
    cases h
    rw [symbols_between, List.append_assoc]
    refine (readFactor_column c (by decide) _).trans ?_
    simp [readTest, readCell, hl, hu]
  | like c asText pattern => cases h

theorem symbols_conjunction (c c' : Condition) (cs : List Condition) :
    symbols (separated " AND " ((c :: c' :: cs).map Condition.pieces))
      = symbols c.pieces ++ .word "AND" ::
        symbols (separated " AND " ((c' :: cs).map Condition.pieces)) := by
  simp only [List.map_cons, separated, symbols_append]
  rfl

/-- Factors with AND between them are read one by one. -/
theorem readAnd_symbols {cs : List Condition} {ts : List Truth} (hne : cs ≠ [])
    (h : cs.mapM (Condition.truth? row) = some ts) {n : Nat} (hn : cs.length ≤ n) :
    readAnd row n (symbols (separated " AND " (cs.map Condition.pieces))) = some (.all ts, []) := by
  induction cs generalizing ts n with
  | nil => exact absurd rfl hne
  | cons c cs ih =>
    rw [List.mapM_cons] at h
    obtain ⟨t, ht, h⟩ := Option.bind_eq_some_iff.mp h
    obtain ⟨more, hmore, h⟩ := Option.bind_eq_some_iff.mp h
    cases h
    obtain ⟨n, rfl⟩ := Nat.exists_eq_add_of_le' (Nat.le_trans (Nat.le_add_left 1 _) hn)
    cases cs with
    | nil =>
      cases hmore
      have hfactor := readFactor_symbols ht []
      rw [List.append_nil] at hfactor
      simp [readAnd, separated, hfactor, Truth.all]
    | cons c' cs =>
      have hrest := ih (by simp) hmore (Nat.le_of_succ_le_succ hn)
      rw [symbols_conjunction, readAnd, readFactor_symbols ht]
      simp only [Option.bind_eq_bind, Option.bind_some, hrest]
      rfl

theorem length_le_symbols {cs : List Condition} {ts : List Truth}
    (h : cs.mapM (Condition.truth? row) = some ts) :
    cs.length ≤ (symbols (separated " AND " (cs.map Condition.pieces))).length := by
  induction cs generalizing ts with
  | nil => exact Nat.zero_le _
  | cons c cs ih =>
    rw [List.mapM_cons] at h
    obtain ⟨t, ht, h⟩ := Option.bind_eq_some_iff.mp h
    obtain ⟨more, hmore, -⟩ := Option.bind_eq_some_iff.mp h
    cases cs with
    | nil =>
      cases hsymbols : symbols c.pieces with
      | nil =>
        have hfactor := readFactor_symbols ht []
        rw [hsymbols] at hfactor
        cases hfactor
      | cons s more => simp [separated, hsymbols]
    | cons c' cs =>
      have hrest := ih hmore
      rw [symbols_conjunction, List.length_append]
      simp only [List.length_cons] at hrest ⊢
      omega

/-- The truth of a WHERE clause is read from its pieces: that of all its conditions. -/
theorem readWhere_symbols {cs : List Condition} {ts : List Truth}
    (h : cs.mapM (Condition.truth? row) = some ts) :
    readWhere row (symbols (Condition.wherePieces cs)) = some (.all ts) := by
  cases cs with
  | nil =>
    cases h
    rfl
  | cons c cs =>
    have hread := readAnd_symbols (by simp) h (length_le_symbols h)
    change readWhere row (.word "WHERE" :: symbols (separated " AND " _)) = _
    rw [readWhere, hread]
    rfl

/-! ## Reading text -/

variable {Q : Option Field → Prop}

theorem Column.spaced (c : Column) : Spaced Q c.pieces := by
  unfold Column.pieces
  split
  · exact .name trivial .nil
  · exact .name (by decide : Leads ".".toList)
      (.word (by simp [keywords]) (.inl (by decide)) (.name trivial .nil))

theorem Comparison.leads (op : Comparison) :
    Leads (" " ++ op.symbol ++ " ").toList ∧ Closes (" " ++ op.symbol ++ " ").toList := by
  cases op <;> decide

namespace Condition

theorem spaced {c : Condition} (h : ∀ o ∈ c.operands, Q o.field) : Spaced Q c.pieces := by
  have hoperand : ∀ o ∈ c.operands, Spaced Q o.pieces := fun o ho => .parameter (h o ho) trivial .nil
  cases c with
  | compare c op o =>
    have ho := hoperand o List.mem_cons_self
    have hop : Spaced Q (c.pieces ++ .word (" " ++ op.symbol ++ " ") :: o.pieces) :=
      c.spaced.append_word op.keyword op.leads.1 op.leads.2 ho
    rw [pieces, List.append_assoc]
    exact hop
  | differs c o =>
    have hnull : Spaced Q (c.pieces ++ [.word " IS NULL)"]) :=
      c.spaced.append_word (by simp [keywords]) (by decide) (by decide) .nil
    have hor : Spaced Q (o.pieces ++ .word " OR " :: (c.pieces ++ [.word " IS NULL)"])) :=
      (hoperand o List.mem_cons_self).append_word (by simp [keywords]) (by decide) (by decide) hnull
    have hne : Spaced Q (c.pieces ++ .word " <> "
        :: (o.pieces ++ .word " OR " :: (c.pieces ++ [.word " IS NULL)"]))) :=
      c.spaced.append_word (by simp [keywords]) (by decide) (by decide) hor
    simp only [pieces, List.append_assoc, List.cons_append, List.nil_append]
    exact .word (by simp [keywords]) (.inl (by decide)) hne
  | isNull c negated =>
    cases negated with
    | false =>
      exact c.spaced.append (.word (by simp [keywords]) (.inr trivial) .nil)
        (by decide : Leads " IS NULL".toList)
    | true =>
      exact c.spaced.append (.word (by simp [keywords]) (.inr trivial) .nil)
        (by decide : Leads " IS NOT NULL".toList)
  | member c negated os =>
    have hos : Spaced Q (separated ", " (os.map Operand.pieces)) := by
      refine .separated (by simp [keywords]) (by decide) (by decide) ?_
      intro ps hps
      obtain ⟨o, ho, rfl⟩ := List.mem_map.mp hps
      exact hoperand o ho
    have hlist : Spaced Q (separated ", " (os.map Operand.pieces) ++ [.word ")"]) :=
      hos.append_word (by simp [keywords]) (by decide) (by decide) .nil
    simp only [pieces, List.append_assoc]
    refine c.spaced.append_word ?_ ?_ ?_ hlist <;> cases negated <;> decide
  | constant truth =>
    refine .word (.inr ?_) (.inr trivial) .nil
    cases truth <;> simp [constants]
  | between c low high =>
    have hlow := hoperand low List.mem_cons_self
    have hhigh := hoperand high (List.mem_cons_of_mem _ List.mem_cons_self)
    have hbounds : Spaced Q (low.pieces ++ .word " AND " :: high.pieces) :=
      hlow.append_word (by simp [keywords]) (by decide) (by decide) hhigh
    simp only [pieces, List.append_assoc]
    exact c.spaced.append_word (by simp [keywords]) (by decide) (by decide) hbounds
  | like c asText pattern =>
    have hpattern := hoperand pattern List.mem_cons_self
    cases asText with
    | false =>
      simp only [pieces, List.append_assoc]
      exact c.spaced.append_word (by simp [keywords]) (by decide) (by decide) hpattern
    | true =>
      have hlike : Spaced Q (.word " LIKE " :: pattern.pieces) :=
        .word (by simp [keywords]) (.inl (by decide)) hpattern
      have hcast : Spaced Q (c.pieces ++ .word " AS text)" :: .word " LIKE " :: pattern.pieces) :=
        c.spaced.append_word (by simp [keywords]) (by decide) (by decide) hlike
      simp only [pieces, if_true, List.append_assoc, List.cons_append, List.nil_append]
      exact .word (by simp [keywords]) (.inl (by decide)) hcast

theorem spaced_wherePieces {cs : List Condition} (h : ∀ c ∈ cs, ∀ o ∈ c.operands, Q o.field) :
    Spaced Q (wherePieces cs) := by
  unfold wherePieces
  split
  · exact .nil
  · refine .word (by simp [keywords]) (.inl (by decide))
      (.separated (by simp [keywords]) (by decide) (by decide) ?_)
    intro ps hps
    obtain ⟨c, hc, rfl⟩ := List.mem_map.mp hps
    exact spaced (h c hc)

end Condition

/-- What is read from the text of a WHERE clause, whatever parameters come before: the truth of all
its conditions. -/
theorem readWhere_text {d : Dialect} {row : Column → Cell} {cs : List Condition} {ts : List Truth}
    (h : cs.mapM (Condition.truth? row) = some ts)
    (hbare : ∀ c ∈ cs, ∀ o ∈ c.operands, Bare d o.field) (before : List Json) :
    readWhere row (lex ((Condition.whereText d cs).on before).2 before.length
      ((Condition.whereText d cs).on before).1.toList) = some (.all ts) := by
  rw [Condition.writes_where d cs before, lex_render (Condition.spaced_wherePieces hbare)
    List.drop_left, readWhere_symbols h]

end EntityMapper.Sql
