import EntityMapper.Proofs.Catalog.Named
import EntityMapper.Proofs.Dict
import EntityMapper.Proofs.Engine.Names
import EntityMapper.Proofs.Sql.SelectList
import EntityMapper.Proofs.Text.Split
import Mathlib.Data.List.Nodup

/-!
# The keys of decoded rows

From a row with the columns that a level's SELECT asks for come the columns of the level's entity and
one key for each joined relation, with the visible columns of the entity it leads to. No column of the
one is taken for a column of the other, because the names of fields and relations have no dots.
-/

namespace EntityMapper

open Sql Stitching

/-- The row has the columns that the SELECT asks for, and no others. -/
def Statement.Selects (s : Statement) (row : Row) : Prop :=
  ∀ names, s.columns? = some names → ∀ n, Dict.contains row n = true ↔ n ∈ names

theorem Statement.selects_of_perm {s : Statement} {row : Row} {names : List String}
    (hnames : s.columns? = some names) (hrow : (row.map Prod.fst).Perm names) : s.Selects row := by
  intro others hothers n
  obtain rfl : names = others := Option.some.inj (hnames.symm.trans hothers)
  rw [Dict.contains_iff, hrow.mem_iff]

namespace Stitching

variable {d : Dialect} {s : Scope} {j : Join} {row : Row} {columns : List String} {n : String}

theorem contains_mainColumns :
    Dict.contains (mainColumns d s row) n = true
      ↔ Text.splitDot n = none ∧ Dict.contains row n = true := by
  rw [Dict.contains_iff, Dict.contains_iff]
  unfold mainColumns
  simp only [List.mem_map, List.mem_filterMap]
  constructor
  · rintro ⟨entry, ⟨⟨column, value⟩, hmem, hentry⟩, rfl⟩
    dsimp only at hentry
    split at hentry
    · rename_i hdot
      cases hentry
      exact ⟨hdot, (column, value), hmem, rfl⟩
    · cases hentry
  · rintro ⟨hdot, ⟨column, value⟩, hmem, rfl⟩
    refine ⟨(column, decodeColumn d s.entity column value), ⟨(column, value), hmem, ?_⟩, rfl⟩
    dsimp only at hdot ⊢
    rw [hdot]

theorem mainColumns_cons (d : Dialect) (s : Scope) (column : String) (v : Json) (rest : Row) :
    mainColumns d s ((column, v) :: rest) =
      match Text.splitDot column with
      | none => (column, decodeColumn d s.entity column v) :: mainColumns d s rest
      | some _ => mainColumns d s rest := by
  unfold mainColumns
  rw [List.filterMap_cons]
  dsimp only
  cases Text.splitDot column <;> rfl

/-- A column that has the name of a field is decoded for it. -/
theorem get?_mainColumns (hn : Text.isIdentifier n = true) (row : Row) :
    Dict.get? (mainColumns d s row) n = (row.get? n).map (decodeColumn d s.entity n) := by
  induction row with
  | nil => rfl
  | cons entry rest ih =>
    obtain ⟨column, v⟩ := entry
    rw [mainColumns_cons, Dict.get?_cons]
    by_cases hcolumn : column = n
    · subst hcolumn
      rw [Text.splitDot_of_isIdentifier hn, if_pos rfl]
      exact if_pos rfl
    · rw [if_neg hcolumn, ← ih]
      cases Text.splitDot column with
      | none => exact if_neg hcolumn
      | some _ => rfl

theorem contains_joinedColumns :
    Dict.contains (joinedColumns d j row) n = true
      ↔ ∃ column, Dict.contains row column = true ∧ Text.splitDot column = some (j.path.name, n) := by
  unfold joinedColumns
  rw [Dict.contains_ofList]
  simp only [Dict.contains_iff, List.mem_map, List.mem_filterMap]
  constructor
  · rintro ⟨entry, ⟨⟨column, value⟩, hmem, hentry⟩, rfl⟩
    refine ⟨column, ⟨_, hmem, rfl⟩, ?_⟩
    dsimp only at hentry
    split at hentry
    · cases hentry
    · rename_i relation name hdot
      split at hentry
      · rename_i hrelation
        cases hentry
        rw [hdot, hrelation]
      · cases hentry
  · rintro ⟨column, ⟨⟨_, value⟩, hmem, rfl⟩, hdot⟩
    refine ⟨(n, decodeColumn d j.entity n value), ⟨_, hmem, ?_⟩, rfl⟩
    dsimp only at hdot ⊢
    rw [hdot]
    simp

theorem get?_decodeRow (n : String) :
    Dict.get? (decodeRow d s row) n
      = ((s.joins.reverse.find? (·.path.name == n)).map (joinedValue d · row)).or
        (Dict.get? (mainColumns d s row) n) := by
  unfold decodeRow
  have hfold := Dict.get?_foldl_insert (s.joins.map fun j => (j.path.name, joinedValue d j row))
    (mainColumns d s row) n
  rw [List.foldl_map, ← List.map_reverse, List.find?_map, Option.map_map] at hfold
  exact hfold

theorem contains_decodeRow (hrow : ∀ n, Dict.contains row n = true ↔ n ∈ s.outputs columns)
    (hcolumns : ∀ n ∈ columns, Text.isIdentifier n = true)
    (hjoins : ∀ j ∈ s.joins, Text.isIdentifier j.path.name = true) :
    Dict.contains (decodeRow d s row) n = true
      ↔ n ∈ columns ∨ n ∈ s.joins.map (·.path.name) := by
  have hmain : Dict.contains (mainColumns d s row) n = true ↔ n ∈ columns := by
    rw [contains_mainColumns, hrow, Scope.mem_outputs]
    constructor
    · rintro ⟨hdot, hmem | ⟨j, hj, f, -, rfl⟩⟩
      · exact hmem
      · rw [Scope.joinedName, Text.splitDot_append (hjoins j hj)] at hdot
        cases hdot
    · exact fun hmem => ⟨Text.splitDot_of_isIdentifier (hcolumns n hmem), .inl hmem⟩
  have hjoined : (s.joins.reverse.find? (·.path.name == n)).isSome = true
      ↔ n ∈ s.joins.map (·.path.name) := by simp
  unfold Dict.contains at hmain ⊢
  rw [get?_decodeRow, Option.isSome_or, Bool.or_eq_true, Option.isSome_map, hjoined, hmain, or_comm]

/-- The columns of a joined relation are the visible ones of the entity it leads to. -/
theorem contains_joined (hrow : ∀ n, Dict.contains row n = true ↔ n ∈ s.outputs columns)
    (hcolumns : ∀ n ∈ columns, Text.isIdentifier n = true)
    (hjoins : ∀ j ∈ s.joins, Text.isIdentifier j.path.name = true)
    (hdistinct : (s.joins.map (·.path.name)).Nodup) (hj : j ∈ s.joins) :
    Dict.contains (joinedColumns d j row) n = true ↔ j.entity.Shows n := by
  rw [contains_joinedColumns]
  constructor
  · rintro ⟨column, hcolumn, hdot⟩
    rw [hrow, Scope.mem_outputs] at hcolumn
    rcases hcolumn with hmem | ⟨other, hother, f, hf, rfl⟩
    · rw [Text.splitDot_of_isIdentifier (hcolumns column hmem)] at hdot
      cases hdot
    · rw [Scope.joinedName, Text.splitDot_append (hjoins other hother), Option.some.injEq,
        Prod.mk.injEq] at hdot
      obtain ⟨hname, rfl⟩ := hdot
      -- Two joins of one name would read each other's columns.
      obtain rfl : other = j := List.inj_on_of_nodup_map hdistinct hother hj hname
      exact ⟨f, hf, rfl⟩
  · rintro ⟨f, hf, rfl⟩
    refine ⟨Scope.joinedName j.path.name f.name, ?_, Text.splitDot_append (hjoins j hj) f.name⟩
    rw [hrow, Scope.mem_outputs]
    exact .inr ⟨j, hj, f, hf, rfl⟩

end Stitching

/-! ## Scopes -/

namespace Engine

variable {m : Engine} {e : Entity} {s s' : Scope} {name n : String} {names : List String} {p : Path}

/-- The scope is over an entity and has each of some relations joined to it once. -/
structure Joined (m : Engine) (e : Entity) (names : List String) (s : Scope) : Prop where
  entity : s.entity = e
  names : ∀ n, n ∈ s.joins.map (·.path.name) ↔ n ∈ names
  distinct : (s.joins.map (·.path.name)).Nodup
  paths : ∀ j ∈ s.joins, m.path e j.path.name = .ok j.path
    ∧ m.catalog.entity j.path.related = .ok j.entity

theorem name_of_path (h : m.path e name = .ok p) : p.name = name :=
  (Catalog.relation?_cases (relation?_of_path h)).1

theorem Joined.step (hs : m.Joined e names s) (h : m.joinRelation e s name = .ok s') :
    m.Joined e (names ++ [name]) s' := by
  obtain ⟨p, related, hp, hrelated, -, ⟨hthere, rfl⟩ | ⟨hnew, rfl⟩⟩ := joinRelation_cases h
  · obtain rfl := name_of_path hp
    refine ⟨hs.entity, fun n => ?_, hs.distinct, hs.paths⟩
    rw [hs.names] at hthere
    rw [hs.names, List.mem_append, List.mem_singleton]
    exact ⟨.inl, fun h => h.elim id fun h => h ▸ hthere⟩
  · obtain rfl := name_of_path hp
    refine ⟨hs.entity, fun n => ?_, ?_, fun j hj => ?_⟩
    · rw [List.map_append, List.mem_append, hs.names, List.mem_append]
      rfl
    · rw [List.map_append]
      exact List.Nodup.append hs.distinct (List.nodup_singleton _) (by simpa using hnew)
    · rcases List.mem_append.mp hj with hj | hj
      · exact hs.paths j hj
      · obtain rfl := List.mem_singleton.mp hj
        exact ⟨hp, hrelated⟩

theorem Joined.foldlM {more : List String} (hs : m.Joined e names s)
    (h : more.foldlM (m.joinRelation e) s = .ok s') : m.Joined e (names ++ more) s' := by
  induction more generalizing names s with
  | nil =>
    cases h
    simpa using hs
  | cons name more ih =>
    rw [List.foldlM_cons] at h
    obtain ⟨middle, hmiddle, h⟩ := Result.of_bind h
    have hall := ih (hs.step hmiddle) h
    rwa [List.append_assoc, List.singleton_append] at hall

theorem joined_scope (h : m.scope e names = .ok s) : m.Joined e names s := by
  have hnone : m.Joined e [] (.of e) := ⟨rfl, by simp [Scope.of], by simp [Scope.of], by simp [Scope.of]⟩
  exact hnone.foldlM h

/-! ## Columns -/

/-- The level selects the column: by name, or because it is visible and the level names none. -/
def SelectsColumn (e : Entity) (level : QueryLevel) (n : String) : Prop :=
  match level.select with
  | [] => e.Shows n
  | select => n ∈ select

theorem mem_columns {level : QueryLevel} (h : columns e level.select = .ok names) :
    n ∈ names ↔ SelectsColumn e level n := by
  unfold SelectsColumn
  cases hselect : level.select with
  | nil =>
    rw [hselect] at h
    cases h
    simp [Entity.Shows]
  | cons first rest =>
    rw [hselect] at h
    have hsame : List.Forall₂ Eq (first :: rest) names := by
      refine (Result.of_mapM h).imp fun a b hab => ?_
      obtain ⟨f, -, hab⟩ := Result.of_bind hab
      cases hab
      rfl
    rw [List.forall₂_eq_eq_eq] at hsame
    rw [← hsame]

end Engine
end EntityMapper
