import EntityMapper.Proofs.Result
import EntityMapper.Proofs.Sql.Reading

/-!
# Reading the list of selected columns

The names that the columns of a SELECT have in its answer, read from its text: each column is named by
its alias, or by itself when it has none. The text of a command that selects columns gives back those
of its main table and then those of the tables joined to it.
-/

namespace EntityMapper

namespace Sql

/-- The names of selected columns, up to the table they are selected from. -/
def readSelected : List Symbol → Option (List String)
  | .name _ :: .word "." :: rest => readSelected rest
  | .name _ :: .word "AS" :: rest => readSelected rest
  | .name n :: .word "," :: rest => (readSelected rest).map (n :: ·)
  | .name n :: .word "FROM" :: _ => some [n]
  | _ => none

end Sql

open Sql

/-- The names under which a SELECT asks for columns. Counting rows asks for none. -/
def Statement.columns? (s : Statement) : Option (List String) :=
  match lex s.parameters 0 s.sql.toList with
  | .word "SELECT" :: rest => readSelected rest
  | _ => none

namespace Sql

variable {d : Dialect} {all : List Json} {n i : Nat} {ps qs : List Piece} {name : String} {s : Scope}

/-! ## The beginning of a text -/

/-- Pieces without parameters are read for themselves, whatever follows. -/
theorem lex_render_append (h : Spaced (fun _ => False) ps) (hopens : Opens qs) :
    lex all n (d.render i (ps ++ qs)).toList = symbols ps ++ lex all n (d.render i qs).toList := by
  induction h with
  | nil => rfl
  | @word w ps hw hspace _ ih =>
    have hplain : Plain w.toList := hw.elim plain_of_keyword plain_of_constant
    have hapart : Apart w.toList (d.render i (ps ++ qs)).toList :=
      hspace.imp_right fun h c hc => mem_stops_of_mem_breaks (head_of_opens (h.append hopens) _ c hc)
    rw [List.cons_append, Dialect.render_word, String.toList_append, lex_word hplain hapart, ih]
    simp [symbols, Piece.symbols]
  | @name q ps hq _ ih =>
    have hquote : ∀ c ∈ (d.render i (ps ++ qs)).toList.head?, c ≠ '"' := by
      rintro _ hc rfl
      exact absurd (head_of_opens (hq.append hopens) _ _ hc) (by decide)
    rw [List.cons_append, Dialect.render_name, String.toList_append, lex_quote q hquote, ih]
    rfl
  | parameter hf => exact hf.elim

/-! ## Columns -/

/-- The pieces select one column, which has this name in the answer. -/
inductive Selects : List Piece → String → Prop where
  | plain (n : String) : Selects [.name n] n
  | aliased (table column n : String) :
    Selects [.name table, .word ".", .name column, .word " AS ", .name n] n

theorem Selects.spaced {Q : Option Field → Prop} (h : Selects ps name) : Spaced Q ps := by
  cases h with
  | plain => exact .name trivial .nil
  | aliased table column =>
    have halias : Spaced Q [.name column, .word " AS ", .name name] :=
      .name (by decide : Leads " AS ".toList)
        (.word (by simp [keywords]) (.inl (by decide)) (.name trivial .nil))
    exact .name (by decide : Leads ".".toList) (.word (by simp [keywords]) (.inl (by decide)) halias)

theorem Selects.read (h : Selects ps name) (rest : List Symbol) :
    readSelected (symbols ps ++ .word "," :: rest) = (readSelected rest).map (name :: ·)
      ∧ readSelected (symbols ps ++ .word "FROM" :: rest) = some [name] := by
  cases h with
  | plain n => exact ⟨rfl, rfl⟩
  | aliased table column n => exact ⟨rfl, rfl⟩

theorem readSelected_separated {items : List (List Piece)} {names : List String}
    (h : List.Forall₂ Selects items names) (hne : names ≠ []) (rest : List Symbol) :
    readSelected (symbols (separated ", " items) ++ .word "FROM" :: rest) = some names := by
  induction h with
  | nil => exact absurd rfl hne
  | @cons ps name items names hfirst hmore ih =>
    cases hmore with
    | nil => exact (hfirst.read rest).2
    | @cons next _ items _ _ _ =>
      have htext : symbols (separated ", " (ps :: next :: items))
          = symbols ps ++ .word "," :: symbols (separated ", " (next :: items)) := by
        rw [separated, symbols_append]
        · rfl
        · simp
      rw [htext, List.append_assoc, List.cons_append, (hfirst.read _).1, ih (by simp)]
      rfl

/-! ## The columns of a scope -/

/-- The names of the columns that are read from a scope. -/
def Scope.outputs (s : Scope) (columns : List String) : List String :=
  columns ++ s.joins.flatMap fun j => j.entity.visibleFields.map fun f => joinedName j.path.name f.name

theorem Scope.mem_outputs {columns : List String} :
    name ∈ s.outputs columns ↔ name ∈ columns
      ∨ ∃ j ∈ s.joins, ∃ f ∈ j.entity.visibleFields, joinedName j.path.name f.name = name := by
  simp [outputs]

theorem Scope.selects_selectedColumn (s : Scope) (name : String) :
    Selects (s.selectedColumn name) name := by
  unfold selectedColumn column mainQualifier
  split
  · exact .plain name
  · exact .aliased mainAlias name name

theorem Scope.selects_joinedColumn (j : Join) (f : Field) :
    Selects (joinedColumn j f) (joinedName j.path.name f.name) := .aliased _ _ _

theorem Scope.selects_outputs (s : Scope) (columns : List String) :
    List.Forall₂ Selects
      (columns.map s.selectedColumn
        ++ s.joins.flatMap fun j => j.entity.visibleFields.map (joinedColumn j))
      (s.outputs columns) := by
  refine List.rel_append ?_ ?_
  · rw [List.forall₂_map_left_iff, List.forall₂_same]
    exact fun name _ => s.selects_selectedColumn name
  · refine List.rel_flatMap (R := Eq) ?_ ?_
    · rw [List.forall₂_eq_eq_eq]
    · rintro j _ rfl
      rw [List.forall₂_map_left_iff, List.forall₂_map_right_iff, List.forall₂_same]
      exact fun f _ => selects_joinedColumn j f

theorem Scope.spaced_selectPieces {Q : Option Field → Prop} (s : Scope) (columns : List String) :
    Spaced Q (s.selectPieces columns) := by
  refine .separated (by simp [keywords]) (by decide) (by decide) fun ps hps => ?_
  obtain ⟨name, -, hselects⟩ := Result.exists_of_mem_left (s.selects_outputs columns) hps
  exact hselects.spaced

/-- The text of a SELECT asks for the columns that the command reads. -/
theorem Command.columns?_select {columns : List String} {conditions : List Condition}
    {order : Option (Column × SortDirection)} {page : Option (Nat × Nat)} (hne : columns ≠ []) :
    ((select s columns conditions order page).statement d).columns? = some (s.outputs columns) := by
  have hlist : Spaced (fun _ => False) (.word "SELECT " :: s.selectPieces columns) :=
    .word (by simp [keywords]) (.inl (by decide)) (s.spaced_selectPieces columns)
  have hpieces : (select s columns conditions order page).pieces
      = (.word "SELECT " :: s.selectPieces columns) ++ .word " FROM "
        :: (s.fromPieces ++ Condition.wherePieces conditions ++ orderPieces order
          ++ pagePieces page) := by
    simp only [pieces, List.append_assoc, List.cons_append, List.nil_append]
  have hopens : ∀ rest, Opens (.word " FROM " :: rest) := fun rest =>
    (by decide : Leads " FROM ".toList)
  unfold Statement.columns?
  rw [statement_eq, hpieces, Dialect.statement, lex_render_append hlist (hopens _),
    Dialect.render_word, String.toList_append, lex_word (by decide) (.inl (by decide))]
  exact readSelected_separated (s.selects_outputs columns) (by simp [Scope.outputs, hne]) _

end Sql
end EntityMapper
