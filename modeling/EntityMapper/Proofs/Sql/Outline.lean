import EntityMapper.Proofs.Sql.Alignment

/-!
# Texts and values

The text of a statement is made of its outline, in which no value of a parameter is left. Filters of
one shape, which have the same fields and operators, and rows with the same keys have one outline:
whatever values callers give, the text is the same.
-/

namespace EntityMapper

open Sql Text

/-! ## Outlines -/

/-- The piece without the value of its parameter. -/
def Sql.Piece.blank : Piece → Piece
  | .parameter _ f => .parameter .null f
  | p => p

def Sql.outline (ps : List Piece) : List Piece := ps.map Piece.blank

namespace Sql

variable {d : Dialect} {ps qs : List Piece}

@[simp] theorem outline_nil : outline [] = [] := rfl

@[simp] theorem outline_cons (p : Piece) (ps : List Piece) :
    outline (p :: ps) = p.blank :: outline ps := rfl

@[simp] theorem outline_append (ps qs : List Piece) :
    outline (ps ++ qs) = outline ps ++ outline qs := List.map_append

theorem outline_separated (sep : String) (pss : List (List Piece)) :
    outline (separated sep pss) = separated sep (pss.map outline) := by
  induction pss using separated.induct with
  | case1 => rfl
  | case2 ps => rfl
  | case3 ps rest hne ih =>
    have hmap : rest.map outline ≠ [] := by simpa using hne
    rw [separated.eq_3 _ _ _ hne, List.map_cons, separated.eq_3 _ _ _ hmap, ← ih]
    simp [Piece.blank]

theorem render_outline (i : Nat) : d.render i (outline ps) = d.render i ps := by
  induction ps generalizing i with
  | nil => rfl
  | cons p ps ih =>
    cases p <;> simp [Piece.blank, Dialect.render, Dialect.pieceText, ih]

theorem length_parameters_outline : (parameters (outline ps)).length = (parameters ps).length := by
  induction ps with
  | nil => rfl
  | cons p ps ih =>
    cases p <;> simpa [Piece.blank, parameters] using ih

/-- The two are one text, with as many parameters. -/
structure SameText (a b : Statement) : Prop where
  sql : a.sql = b.sql
  count : a.parameters.length = b.parameters.length

/-- Commands whose pieces have one outline are statements with one text. -/
theorem sameText_of_outline {c c' : Command} (h : outline c.pieces = outline c'.pieces) :
    SameText (c.statement d) (c'.statement d) := by
  rw [c.statement_eq, c'.statement_eq]
  constructor
  · change d.render 1 c.pieces = d.render 1 c'.pieces
    rw [← render_outline, h, render_outline]
  · change (parameters c.pieces).length = (parameters c'.pieces).length
    rw [← length_parameters_outline, h, length_parameters_outline]

end Sql

/-! ## Conditions -/

/-- What the text of a condition shows of an operand. -/
inductive Operator.Shape where
  | value
  | list (length : Nat)
  | flag (set : Bool)
deriving DecidableEq, Repr

def Operator.shape (key : String) (operand : Json) : Shape :=
  match key with
  | "$in" | "$notin" => .list (operand.arr?.getD []).length
  | "$isnull" | "$notnull" => .flag (Condition.isSet operand)
  | _ => .value

/-- The fields and operators of a filter, with the lengths of its lists and the meaning of its flags. -/
def Filter.shape (f : Filter) : List (String × String × Operator.Shape) :=
  f.predicates.map fun (field, op, value) => (field, op, Operator.shape op value)

namespace Sql.Condition

variable {d : Dialect} {s : Scope} {col : Column} {f : Field} {key : String} {v w : Json}
  {c c' : Condition}

theorem outline_operand {o : Operand} (h : operand d f v = .ok o) :
    outline o.pieces = [.parameter .null (some f)] := by
  simp [Operand.pieces, Piece.blank, field_of_operand h]

theorem outline_operands {items : List Json} {os : List Operand}
    (h : List.Forall₂ (fun v o => operand d f v = .ok o) items os) :
    (os.map Operand.pieces).map outline
      = List.replicate items.length [.parameter .null (some f)] := by
  induction h with
  | nil => rfl
  | cons hfirst _ ih =>
    rw [List.map_cons, List.map_cons, outline_operand hfirst, ih]
    rfl

theorem outline_membership {negated : Bool} (h : membership d col f negated v = .ok c)
    (h' : membership d col f negated w = .ok c')
    (hlength : (v.arr?.getD []).length = (w.arr?.getD []).length) :
    outline c.pieces = outline c'.pieces := by
  rcases membership_ok h with ⟨rfl, hv⟩ | ⟨os, hos, hv, rfl⟩ <;>
    rcases membership_ok h' with ⟨rfl, hw⟩ | ⟨os', hos', hw, rfl⟩
  · rfl
  · exact absurd (List.eq_nil_of_length_eq_zero (by rw [← hlength, hv]; rfl)) hw
  · exact absurd (List.eq_nil_of_length_eq_zero (by rw [hlength, hw]; rfl)) hv
  · simp only [pieces, outline_append, outline_separated, outline_operands hos,
      outline_operands hos', hlength]

/-- Operands of one shape make conditions that differ in values only. -/
theorem outline_of_ofOperator (h : ofOperator d col f key v = .ok c)
    (h' : ofOperator d col f key w = .ok c') (hshape : Operator.shape key v = Operator.shape key w) :
    outline c.pieces = outline c'.pieces := by
  unfold ofOperator at h
  split at h
  case h_2 =>
    obtain ⟨o, ho, h⟩ := Result.of_bind h
    obtain ⟨o', ho', h'⟩ := Result.of_bind h'
    cases h
    cases h'
    simp only [pieces, outline_append, outline_operand ho, outline_operand ho']
  case h_7 | h_8 =>
    cases h
    cases h'
    simp only [Operator.shape, Operator.Shape.flag.injEq] at hshape
    rw [hshape]
  case h_9 | h_10 =>
    simp only [Operator.shape, Operator.Shape.list.injEq] at hshape
    exact outline_membership h h' hshape
  case h_11 =>
    obtain ⟨_, _, low, high, -, hlow, hhigh, rfl⟩ := between_ok h
    obtain ⟨_, _, low', high', -, hlow', hhigh', rfl⟩ := between_ok h'
    simp only [pieces, outline_append, outline_operand hlow, outline_operand hlow',
      outline_operand hhigh, outline_operand hhigh']
  case h_12 =>
    cases h
    cases h'
    simp [pieces, Operand.pieces, Piece.blank]
  case h_13 => cases h
  all_goals
    obtain ⟨o, ho, rfl⟩ := comparison_ok h
    obtain ⟨o', ho', rfl⟩ := comparison_ok h'
    simp only [pieces, outline_append, outline_operand ho, outline_operand ho']

theorem outline_of_for {p q : String × String × Json} (h : For d s p c) (h' : For d s q c')
    (hshape : (p.1, p.2.1, Operator.shape p.2.1 p.2.2) = (q.1, q.2.1, Operator.shape q.2.1 q.2.2)) :
    outline c.pieces = outline c'.pieces := by
  obtain ⟨field, op, v⟩ := p
  obtain ⟨field', op', w⟩ := q
  simp only [Prod.mk.injEq] at hshape
  obtain ⟨rfl, rfl, hshape⟩ := hshape
  obtain ⟨col, f, hresolve, hop⟩ := h
  obtain ⟨col', f', hresolve', hop'⟩ := h'
  cases hresolve.symm.trans hresolve'
  exact outline_of_ofOperator hop hop' hshape

/-- Filters of one shape make conditions of one outline. -/
theorem outlines_of_ofFilter {filter filter' : Filter} {cs cs' : List Condition}
    (h : ofFilter d s filter = .ok cs) (h' : ofFilter d s filter' = .ok cs')
    (hshape : filter.shape = filter'.shape) :
    (cs.map pieces).map outline = (cs'.map pieces).map outline := by
  have hfor := ofFilter_predicates h
  have hfor' := ofFilter_predicates h'
  clear h h'
  unfold Filter.shape at hshape
  generalize filter.predicates = ps at hfor hshape
  generalize filter'.predicates = qs at hfor' hshape
  induction hfor generalizing qs cs' with
  | nil =>
    obtain rfl : qs = [] := List.map_eq_nil_iff.mp hshape.symm
    cases hfor'
    rfl
  | cons hfirst _ ih =>
    cases hfor' with
    | nil => cases hshape
    | cons hfirst' hrest' =>
      obtain ⟨hhead, htail⟩ := List.cons.inj hshape
      rw [List.map_cons, List.map_cons, List.map_cons, List.map_cons,
        outline_of_for hfirst hfirst' hhead, ih _ hrest' htail]

theorem outline_wherePieces (cs : List Condition) : outline (wherePieces cs)
    = if cs = [] then [] else .word " WHERE " :: separated " AND " ((cs.map pieces).map outline) := by
  cases cs with
  | nil => rfl
  | cons c cs =>
    simp only [wherePieces, outline_cons, outline_separated, Piece.blank]
    rfl

theorem outline_where_of_shape {filter filter' : Filter} {cs cs' : List Condition}
    (h : ofFilter d s filter = .ok cs) (h' : ofFilter d s filter' = .ok cs')
    (hshape : filter.shape = filter'.shape) :
    outline (wherePieces cs) = outline (wherePieces cs') := by
  have houtlines := outlines_of_ofFilter h h' hshape
  have hnil : cs = [] ↔ cs' = [] := by
    have := congrArg List.length houtlines
    simp only [List.length_map] at this
    rw [← List.length_eq_zero_iff, ← List.length_eq_zero_iff, this]
  simp only [outline_wherePieces, houtlines, hnil]

end Sql.Condition

/-! ## Rows -/

namespace Sql.Command

variable {d : Dialect} {e : Entity} {row row' : Row}

theorem Encoded.fields_eq {fields : List Field} {given given' : List (Field × Json)}
    (h : Encoded d row fields given) (h' : Encoded d row' fields given')
    (hkeys : ∀ name, row.contains name = row'.contains name) :
    given.map Prod.fst = given'.map Prod.fst := by
  rw [h.fields, h'.fields]
  exact List.filter_congr fun f _ => hkeys f.name

/-- The text of an INSERT does not depend on the values. -/
theorem insertText_of_fields {given given' : List (Field × Json)}
    (h : given.map Prod.fst = given'.map Prod.fst) : insertText d e given = insertText d e given' := by
  have hempty (gs : List (Field × Json)) : gs.isEmpty = (gs.map Prod.fst).isEmpty := by simp
  have hcolumns (gs : List (Field × Json)) :
      gs.map (fun g => Quoted.quote g.1.name) = (gs.map Prod.fst).map (Quoted.quote ·.name) := by simp
  have hvalues (gs : List (Field × Json)) :
      gs.mapIdx (fun k g => d.placeholder (k + 1) (some g.1))
        = (gs.map Prod.fst).mapIdx fun k f => d.placeholder (k + 1) (some f) :=
    List.ext_getElem (by simp) fun k _ _ => by simp
  unfold insertText
  rw [hempty, hcolumns, hvalues, h, ← hempty, ← hcolumns, ← hvalues]

theorem outline_changes (given : List (Field × Json)) :
    ((given.map assignment).map assignmentPieces).map outline = (given.map Prod.fst).map fun f =>
      [.name f.name, .word " = ", .parameter .null (some f)] := by
  rw [List.map_map, List.map_map, List.map_map]
  rfl

theorem outline_update {given given' : List (Field × Json)} {conditions conditions' : List Condition}
    (table : String) (returning : List String) (h : given.map Prod.fst = given'.map Prod.fst)
    (hwhere : outline (Condition.wherePieces conditions) = outline (Condition.wherePieces conditions')) :
    outline (update table (given.map assignment) conditions returning).pieces
      = outline (update table (given'.map assignment) conditions' returning).pieces := by
  simp only [pieces, outline_append, outline_separated, outline_changes, h, hwhere]

/-! ## Main statement -/

variable {f f' : Filter} {s : Scope} {c c' : Command}

theorem sameText_selecting {columns : List String} {order : Option (String × SortDirection)}
    {page : Option (Nat × Nat)} (hshape : f.shape = f'.shape)
    (h : selecting d s columns f order page = .ok c)
    (h' : selecting d s columns f' order page = .ok c') :
    SameText (c.statement d) (c'.statement d) := by
  obtain ⟨conditions, hconditions, h⟩ := Result.of_bind h
  obtain ⟨conditions', hconditions', h'⟩ := Result.of_bind h'
  obtain ⟨sort, hsort, h⟩ := Result.of_bind h
  obtain ⟨sort', hsort', h'⟩ := Result.of_bind h'
  cases h
  cases h'
  cases hsort.symm.trans hsort'
  refine sameText_of_outline ?_
  simp only [pieces, outline_append,
    Condition.outline_where_of_shape hconditions hconditions' hshape]

theorem sameText_counting (hshape : f.shape = f'.shape) (h : counting d s f = .ok c)
    (h' : counting d s f' = .ok c') : SameText (c.statement d) (c'.statement d) := by
  obtain ⟨conditions, hconditions, h⟩ := Result.of_bind h
  obtain ⟨conditions', hconditions', h'⟩ := Result.of_bind h'
  cases h
  cases h'
  refine sameText_of_outline ?_
  simp only [pieces, outline_append,
    Condition.outline_where_of_shape hconditions hconditions' hshape]

theorem sameText_deleting (hshape : f.shape = f'.shape) (h : deleting d e f = .ok c)
    (h' : deleting d e f' = .ok c') : SameText (c.statement d) (c'.statement d) := by
  obtain ⟨conditions, hconditions, h⟩ := Result.of_bind h
  obtain ⟨conditions', hconditions', h'⟩ := Result.of_bind h'
  cases h
  cases h'
  refine sameText_of_outline ?_
  simp only [pieces, outline_append,
    Condition.outline_where_of_shape hconditions hconditions' hshape]

theorem sameText_updating (hshape : f.shape = f'.shape)
    (hkeys : ∀ name, row.contains name = row'.contains name) (h : updating d e row f = .ok c)
    (h' : updating d e row' f' = .ok c') : SameText (c.statement d) (c'.statement d) := by
  obtain ⟨given, conditions, hgiven, hconditions, rfl⟩ := updating_parts h
  obtain ⟨given', conditions', hgiven', hconditions', rfl⟩ := updating_parts h'
  have hfields := hgiven.fields_eq hgiven' hkeys
  have hwhere := Condition.outline_where_of_shape hconditions hconditions' hshape
  have hempty : given.isEmpty = given'.isEmpty := by simpa using congrArg List.isEmpty hfields
  rw [hempty]
  refine sameText_of_outline ?_
  split
  · simp only [pieces, outline_append, hwhere]
  · exact outline_update e.name (storedNames e) hfields hwhere

theorem sameText_inserting (hkeys : ∀ name, row.contains name = row'.contains name)
    (h : inserting d e row = .ok c) (h' : inserting d e row' = .ok c') :
    SameText (c.statement d) (c'.statement d) := by
  obtain ⟨as, has, h⟩ := Result.of_bind h
  obtain ⟨as', has', h'⟩ := Result.of_bind h'
  cases h
  cases h'
  obtain ⟨given, hgiven, rfl⟩ := encoded_of_assignments has
  obtain ⟨given', hgiven', rfl⟩ := encoded_of_assignments has'
  obtain ⟨hsql, hparameters⟩ := insert_statement d e given
  obtain ⟨hsql', hparameters'⟩ := insert_statement d e given'
  have hfields := hgiven.fields_eq hgiven' hkeys
  constructor
  · rw [hsql, hsql', insertText_of_fields hfields]
  · rw [hparameters, hparameters']
    simpa using congrArg List.length hfields

/-- Values are no part of texts. Commands that are made from filters of one shape, and those made from
rows with the same keys, have one text and as many parameters. -/
theorem text_of_shape (d : Dialect) :
    (∀ f f' : Filter, f.shape = f'.shape →
      (∀ s columns order page c c', selecting d s columns f order page = .ok c →
        selecting d s columns f' order page = .ok c' → SameText (c.statement d) (c'.statement d))
      ∧ (∀ s c c', counting d s f = .ok c → counting d s f' = .ok c' →
        SameText (c.statement d) (c'.statement d))
      ∧ (∀ e c c', deleting d e f = .ok c → deleting d e f' = .ok c' →
        SameText (c.statement d) (c'.statement d))
      ∧ ∀ row row' : Row, (∀ name, row.contains name = row'.contains name) →
        ∀ e c c', updating d e row f = .ok c → updating d e row' f' = .ok c' →
          SameText (c.statement d) (c'.statement d))
    ∧ ∀ row row' : Row, (∀ name, row.contains name = row'.contains name) →
      ∀ e c c', inserting d e row = .ok c → inserting d e row' = .ok c' →
        SameText (c.statement d) (c'.statement d) :=
  ⟨fun _ _ hshape =>
      ⟨fun _ _ _ _ _ _ => sameText_selecting hshape, fun _ _ _ => sameText_counting hshape,
        fun _ _ _ => sameText_deleting hshape,
        fun _ _ hkeys _ _ _ => sameText_updating hshape hkeys⟩,
    fun _ _ hkeys _ _ _ => sameText_inserting hkeys⟩

/-- Two changes of people, with quotes and a placeholder among the values of the second. -/
theorem text_of_shape_people :
    let f : Filter := [("member", [("$isnull", .bool true)]), ("name", [("$in", .arr [.str "A", .str "B"])])]
    let f' : Filter :=
      [("member", [("$isnull", .int 1)]), ("name", [("$in", .arr [.str "\" OR 1 = 1 --", .str "$1"])])]
    let row : Row := [("member", .bool true), ("name", .str "Ada")]
    let row' : Row := [("member", .null), ("name", .str "'); DROP TABLE people; --")]
    f.shape = f'.shape ∧ (∀ name, row.contains name = row'.contains name)
      ∧ ∃ c c', updating .postgresql people row f = .ok c
        ∧ updating .postgresql people row' f' = .ok c'
        ∧ (c.statement .postgresql).parameters ≠ []
        ∧ SameText (c.statement .postgresql) (c'.statement .postgresql) := by
  intro f f' row row'
  have hshape : f.shape = f'.shape := by decide
  have hkeys : ∀ name, row.contains name = row'.contains name := by
    intro name
    simp only [row, row', Dict.contains, Dict.get?]
    split <;> (try split) <;> rfl
  refine ⟨hshape, hkeys, _, _, rfl, rfl, List.cons_ne_nil _ _, ?_⟩
  exact ((text_of_shape .postgresql).1 f f' hshape).2.2.2 row row' hkeys people _ _ rfl rfl

end Sql.Command

end EntityMapper
