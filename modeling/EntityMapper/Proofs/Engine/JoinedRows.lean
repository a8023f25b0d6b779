import EntityMapper.Proofs.Engine.Aliases
import EntityMapper.Proofs.Engine.Visible

/-!
# Joined rows and rows that are missing

A SELECT with joins gives a row also where a relation leads to none, with null in all columns of the
relation. Only the visible columns of a related row are read, and a row of which all these are null is
taken for a missing one. A key that is visible tells the two apart, since it is never null.
-/

namespace EntityMapper

open Sql Stitching

/-- The row of an entity as it is stored: its key is not null. -/
def Entity.Keyed (e : Entity) (row : Row) : Prop :=
  ∃ v, row.get? e.primary.name = some v ∧ v.isNull = false

namespace Sql

/-- The value of a joined column: that of the related row, or null where none matched. -/
def Join.cell (j : Join) (related : Join → Option Row) (f : Field) : Json :=
  ((related j).bind (·.get? f.name)).getD .null

/-- A row of the SELECT in a scope, when these are the related rows that match it: it has the columns
that are asked for, and those of the joins have their values. -/
structure Scope.Yields (s : Scope) (columns : List String) (related : Join → Option Row)
    (row : Row) : Prop where
  sorted : Dict.Sorted row
  columns : ∀ n, Dict.contains row n = true ↔ n ∈ s.outputs columns
  joined : ∀ j ∈ s.joins, ∀ f ∈ j.entity.visibleFields,
    row.get? (Scope.joinedName j.path.name f.name) = some (j.cell related f)

end Sql

variable {d : Dialect} {s : Scope} {j : Join} {row : Row} {columns : List String} {f : Field}
  {related : Join → Option Row} {e : Entity}

/-! ## Values -/

theorem Dialect.decode_null_eq_null (d : Dialect) (f : Field) : d.decode f .null = .null := by
  unfold decode
  cases f.kind <;> rfl

theorem Dialect.decode_primary (d : Dialect) (h : f.isPrimary = true) (v : Json) :
    d.decode f v = v := by
  unfold Field.isPrimary at h
  unfold decode
  split at h
  · rename_i hkind
    rw [hkind]
  · cases h

theorem Entity.primary_visible (h : e.primary.hidden = false) : e.primary ∈ e.visibleFields :=
  List.mem_filter.mpr ⟨e.primary_stored, by simp [h]⟩

namespace Stitching

theorem of_mem_joinedColumns {n : String} {w : Json} (h : (n, w) ∈ joinedColumns d j row) :
    ∃ v, (Scope.joinedName j.path.name n, v) ∈ row ∧ w = decodeColumn d j.entity n v := by
  obtain ⟨⟨column, v⟩, hmem, hentry⟩ := List.mem_filterMap.mp (Dict.mem_of_mem_ofList h)
  dsimp only at hentry
  split at hentry
  · cases hentry
  · rename_i relation name hdot
    split at hentry
    · rename_i hrelation
      cases hentry
      subst hrelation
      obtain rfl := Text.eq_append_of_splitDot hdot
      exact ⟨v, hmem, rfl⟩
    · cases hentry

/-- A joined column is found, decoded, under the name of its field. -/
theorem get?_joinedColumns (hfields : Entity.NamedFields j.entity.fields)
    (hj : Text.isIdentifier j.path.name = true) (hrow : Dict.Sorted row) (hf : f ∈ j.entity.fields)
    {v : Json} (hv : row.get? (Scope.joinedName j.path.name f.name) = some v) :
    Dict.get? (joinedColumns d j row) f.name = some (d.decode f v) := by
  have hthere : Dict.contains (joinedColumns d j row) f.name = true :=
    contains_joinedColumns.mpr
      ⟨_, Option.isSome_iff_exists.mpr ⟨v, hv⟩, Text.splitDot_append hj f.name⟩
  obtain ⟨w, hw⟩ := Option.isSome_iff_exists.mp hthere
  obtain ⟨u, hu, rfl⟩ := of_mem_joinedColumns (Dict.mem_of_get? hw)
  obtain rfl : v = u := Option.some.inj (hv.symm.trans (Dict.get?_of_mem hrow.nodup hu))
  rw [hw]
  simp [decodeColumn, hfields.field?_eq hf]

/-- The columns of a join are the visible fields of the related row, decoded. -/
theorem get?_joinedColumns_iff (hfields : Entity.NamedFields j.entity.fields)
    (hcolumns : ∀ n ∈ columns, Text.isIdentifier n = true)
    (hjoins : ∀ j ∈ s.joins, Text.isIdentifier j.path.name = true)
    (hdistinct : (s.joins.map (·.path.name)).Nodup) (hj : j ∈ s.joins)
    (hrow : s.Yields columns related row) (n : String) (w : Json) :
    Dict.get? (joinedColumns d j row) n = some w
      ↔ ∃ f ∈ j.entity.visibleFields, f.name = n ∧ w = d.decode f (j.cell related f) := by
  have hget : ∀ f ∈ j.entity.visibleFields,
      Dict.get? (joinedColumns d j row) f.name = some (d.decode f (j.cell related f)) := by
    intro f hf
    have hmem : f ∈ j.entity.fields := (List.mem_filter.mp (List.mem_filter.mp hf).1).1
    exact get?_joinedColumns hfields (hjoins j hj) hrow.sorted hmem (hrow.joined j hj f hf)
  constructor
  · intro hw
    have hthere : Dict.contains (joinedColumns d j row) n = true := by simp [Dict.contains, hw]
    obtain ⟨f, hf, rfl⟩ :=
      (contains_joined hrow.columns hcolumns hjoins hdistinct hj).mp hthere
    exact ⟨f, hf, rfl, Option.some.inj (hw.symm.trans (hget f hf))⟩
  · rintro ⟨f, hf, rfl, rfl⟩
    exact hget f hf

theorem get?_decodeRow_join (hdistinct : (s.joins.map (·.path.name)).Nodup) (hj : j ∈ s.joins) :
    (decodeRow d s row).get? j.path.name = some (joinedValue d j row) := by
  have hreverse : (s.joins.reverse.map (·.path.name)).Nodup := by
    rw [List.map_reverse, List.nodup_reverse]
    exact hdistinct
  have hfound : s.joins.reverse.find? (·.path.name == j.path.name) = some j :=
    Keyed.find?_of_mem hreverse (List.mem_reverse.mpr hj)
  rw [get?_decodeRow, hfound]
  rfl

/-- The joined value is null exactly when all visible columns are. -/
theorem joinedValue_eq_null (hcolumns : ∀ n w, Dict.get? (joinedColumns d j row) n = some w
      ↔ ∃ f ∈ j.entity.visibleFields, f.name = n ∧ w = d.decode f (j.cell related f)) :
    joinedValue d j row = .null
      ↔ ∀ f ∈ j.entity.visibleFields, (d.decode f (j.cell related f)).isNull = true := by
  have hsorted : Dict.Sorted (joinedColumns d j row) := Dict.sorted_ofList _
  unfold joinedValue
  dsimp only
  split
  · rename_i hany
    obtain ⟨⟨n, w⟩, hmem, hw⟩ := List.any_eq_true.mp hany
    obtain ⟨f, hf, -, rfl⟩ := (hcolumns n w).mp (Dict.get?_of_mem hsorted.nodup hmem)
    simp only [Bool.not_eq_true'] at hw
    refine ⟨nofun, fun hnull => ?_⟩
    rw [hnull f hf] at hw
    cases hw
  · rename_i hnone
    refine iff_of_true rfl fun f hf => ?_
    have hmem := Dict.mem_of_get? ((hcolumns f.name _).mpr ⟨f, hf, rfl, rfl⟩)
    by_contra hvalue
    exact hnone (List.any_eq_true.mpr ⟨_, hmem, by simpa using hvalue⟩)

end Stitching

/-! ## Rows of related rows that are empty -/

/-- The row of the SELECT in which every column is null. -/
def Sql.Scope.emptyRow (s : Scope) (columns : List String) : Row :=
  Dict.ofList ((s.outputs columns).map fun n => (n, .null))

theorem Sql.Scope.yields_emptyRow (hrelated : ∀ j ∈ s.joins, ∀ f ∈ j.entity.visibleFields,
      j.cell related f = .null) : s.Yields columns related (s.emptyRow columns) := by
  have hcolumns : ∀ n, Dict.contains (s.emptyRow columns) n = true ↔ n ∈ s.outputs columns := by
    intro n
    unfold emptyRow
    rw [Dict.contains_ofList, List.map_map]
    simp
  refine ⟨Dict.sorted_ofList _, hcolumns, fun j hj f hf => ?_⟩
  have hmem : Scope.joinedName j.path.name f.name ∈ s.outputs columns :=
    Scope.mem_outputs.mpr (.inr ⟨j, hj, f, hf, rfl⟩)
  obtain ⟨v, hv⟩ := Option.isSome_iff_exists.mp ((hcolumns _).mpr hmem)
  obtain ⟨n, -, hentry⟩ := List.mem_map.mp (Dict.mem_of_mem_ofList (Dict.mem_of_get? hv))
  cases hentry
  rw [hv, hrelated j hj f hf]

/-- Rows that have nothing but their keys, where these are hidden. -/
def bareKeys (j : Join) : Option Row :=
  if j.entity.primary.hidden then some [(j.entity.primary.name, .int 1)] else none

theorem cell_bareKeys (hfields : Entity.NamedFields j.entity.fields)
    (hf : f ∈ j.entity.visibleFields) : j.cell bareKeys f = .null := by
  obtain ⟨hstored, hvisible⟩ := List.mem_filter.mp hf
  unfold Join.cell bareKeys
  split
  · rename_i hhidden
    have hname : j.entity.primary.name ≠ f.name := by
      intro hsame
      have hprimary := j.entity.primary_mem.1
      obtain rfl := Keyed.eq_of_key_eq hfields.distinct hprimary (List.mem_filter.mp hstored).1 hsame
      simp [hhidden] at hvisible
    rw [Option.bind_some, Dict.get?_cons, if_neg hname]
    rfl
  · rfl

theorem keyed_bareKeys {r : Row} (h : bareKeys j = some r) : j.entity.Keyed r := by
  unfold bareKeys at h
  split at h <;> cases h
  exact ⟨.int 1, by simp [Dict.get?_cons], rfl⟩

namespace Engine

variable {m : Engine} {name : String} {joins : List String}

theorem Joined.entity_mem (hs : m.Joined e joins s) (hj : j ∈ s.joins) :
    j.entity ∈ m.catalog.entities :=
  Catalog.mem_of_entity? (Catalog.entity?_of_entity (hs.paths j hj).2)

/-- The joins of a scope are over entities of the catalog, under names of relations. -/
theorem joinedColumns_of_scope (hm : m.catalog.Reachable)
    (hdeclared : ∀ d ∈ m.catalog.declared, d.Declared) (he : m.catalog.entity? name = some e)
    (hs : m.scope e joins = .ok s) (hcolumns : ∀ n ∈ columns, e.Stores n) (hj : j ∈ s.joins)
    (hrow : s.Yields columns related row) (n : String) (w : Json) :
    Dict.get? (joinedColumns d j row) n = some w
      ↔ ∃ f ∈ j.entity.visibleFields, f.name = n ∧ w = d.decode f (j.cell related f) := by
  have hn := hm.named hdeclared
  have hjoined := joined_scope hs
  have hjoins : ∀ j ∈ s.joins, Text.isIdentifier j.path.name = true := fun j hj =>
    hn.isIdentifier_relation (knownPath_of_path hm.sound (hjoined.paths j hj).1).name
  have hnames : ∀ n ∈ columns, Text.isIdentifier n = true := by
    intro n hmem
    obtain ⟨f, hf, -, rfl⟩ := Entity.stores_iff.mp (hcolumns n hmem)
    exact (hn.fields e (Catalog.mem_of_entity? he)).identifiers f hf
  exact get?_joinedColumns_iff (hn.fields j.entity (hjoined.entity_mem hj)) hnames hjoins
    hjoined.distinct hj hrow n w

/-- Where a hidden key is all that a related row has, the row is taken for a missing one. -/
theorem joinedValue_of_hidden {d : Dialect} (hn : m.catalog.Named) (hs : m.scope e joins = .ok s)
    (hj : j ∈ s.joins) (hcolumns : ∀ n w,
      Dict.get? (joinedColumns d j (s.emptyRow columns)) n = some w
        ↔ ∃ f ∈ j.entity.visibleFields, f.name = n ∧ w = d.decode f (j.cell bareKeys f)) :
    joinedValue d j (s.emptyRow columns) = .null := by
  refine (joinedValue_eq_null hcolumns).mpr fun f hf => ?_
  rw [cell_bareKeys (hn.fields _ ((joined_scope hs).entity_mem hj)) hf, Dialect.decode_null_eq_null]
  rfl

/-- A visible key is null only where no row matched. -/
theorem joinedValue_of_visible {d : Dialect} (hvisible : j.entity.primary.hidden = false)
    (hcolumns : ∀ n w, Dict.get? (joinedColumns d j row) n = some w
      ↔ ∃ f ∈ j.entity.visibleFields, f.name = n ∧ w = d.decode f (j.cell related f))
    (hkeyed : ∀ r, related j = some r → j.entity.Keyed r) :
    joinedValue d j row = .null ↔ related j = none := by
  rw [joinedValue_eq_null hcolumns]
  constructor
  · intro hnull
    have hprimary := hnull _ (Entity.primary_visible hvisible)
    rw [Dialect.decode_primary _ j.entity.primary_mem.2] at hprimary
    cases hrelated : related j with
    | none => rfl
    | some r =>
      obtain ⟨v, hv, hpresent⟩ := hkeyed r hrelated
      simp [Join.cell, hrelated, hv, hpresent] at hprimary
  · intro hnone f _
    rw [Join.cell, hnone, Option.bind_none, Option.getD_none, Dialect.decode_null_eq_null]
    rfl

/-! ## Main statement -/

/-- Over every catalog that declarations lead to, the value of a joined relation is an object with the
visible fields of the related row, decoded, or null; and it is null exactly when all of these are null.
That it is null exactly when no row matched holds for all rows exactly where the related entity shows
its primary key. -/
theorem joined_values (hm : m.catalog.Reachable) (hdeclared : ∀ d ∈ m.catalog.declared, d.Declared)
    (he : m.catalog.entity? name = some e) (hs : m.scope e joins = .ok s)
    (hcolumns : ∀ n ∈ columns, e.Stores n) (hj : j ∈ s.joins) :
    (∀ related row, s.Yields columns related row →
        ∃ v, (decodeRow m.dialect s row).get? j.path.name = some v
          ∧ (v = .null ∨ ∃ members, v = .obj members ∧ ∀ n w, Dict.get? members n = some w
            ↔ ∃ f ∈ j.entity.visibleFields,
              f.name = n ∧ w = m.dialect.decode f (j.cell related f))
          ∧ (v = .null ↔ ∀ f ∈ j.entity.visibleFields,
            (m.dialect.decode f (j.cell related f)).isNull = true))
      ∧ ((∀ related row, s.Yields columns related row →
          (∀ r, related j = some r → j.entity.Keyed r) →
          ((decodeRow m.dialect s row).get? j.path.name = some .null ↔ related j = none))
        ↔ j.entity.primary.hidden = false) := by
  have hjoined := joined_scope hs
  have hmembers {related : Join → Option Row} {row : Row} (hrow : s.Yields columns related row) :=
    joinedColumns_of_scope (d := m.dialect) hm hdeclared he hs hcolumns hj hrow
  refine ⟨fun related row hrow => ⟨_, get?_decodeRow_join hjoined.distinct hj, ?_,
    joinedValue_eq_null (hmembers hrow)⟩, fun h => ?_, fun hvisible related row hrow hkeyed => ?_⟩
  · unfold joinedValue
    dsimp only
    split
    · exact .inr ⟨_, rfl, hmembers hrow⟩
    · exact .inl rfl
  · have hn := hm.named hdeclared
    have hempty : s.Yields columns bareKeys (s.emptyRow columns) :=
      Scope.yields_emptyRow fun j hj f hf => cell_bareKeys (hn.fields _ (hjoined.entity_mem hj)) hf
    have hnull := joinedValue_of_hidden hn hs hj (hmembers hempty)
    have hnone := (h bareKeys _ hempty fun r => keyed_bareKeys).mp
      (by rw [get?_decodeRow_join hjoined.distinct hj, hnull])
    cases hhidden : j.entity.primary.hidden with
    | false => rfl
    | true => simp [bareKeys, hhidden] at hnone
  · rw [get?_decodeRow_join hjoined.distinct hj, Option.some.injEq]
    exact joinedValue_of_visible hvisible (hmembers hrow) hkeyed

/-! ## Authors without a name -/

def namelessAuthor : Row := [("id", .int 3), ("name", .null)]

/-- The author of every post has no name. -/
def nameless (_ : Join) : Option Row := some namelessAuthor

/-- A post and what is read of its author. -/
def postOfNameless : Row :=
  [("author.id", .int 3), ("author.name", .null), ("title", .str "It")]

theorem joined_values_library :
    let m : Engine := { catalog := Catalog.library, randomKeys := fun _ => "" }
    let s := postsWith "author"
    m.catalog.Reachable ∧ (∀ d ∈ m.catalog.declared, d.Declared)
      ∧ m.catalog.entity? "posts" = some Catalog.authoredPosts
      ∧ m.scope Catalog.authoredPosts ["author"] = .ok s
      ∧ (∀ n ∈ ["title"], Catalog.authoredPosts.Stores n)
      ∧ (∀ j ∈ s.joins, s.Yields ["title"] nameless postOfNameless ∧ j.entity.Keyed namelessAuthor
        ∧ (decodeRow m.dialect s postOfNameless).get? j.path.name ≠ some .null) := by
  intro m s
  have hm : m.catalog.Reachable := Catalog.reachable_library
  have hdeclared : ∀ d ∈ m.catalog.declared, d.Declared := Catalog.declared_library
  have he : m.catalog.entity? "posts" = some Catalog.authoredPosts := rfl
  have hs : m.scope Catalog.authoredPosts ["author"] = .ok s := rfl
  have hcolumns : ∀ n ∈ ["title"], Catalog.authoredPosts.Stores n := by
    intro n hn
    obtain rfl := List.mem_singleton.mp hn
    exact Entity.stores_of_mem (f := .text "title") (.tail _ (.head _))
  have hrow : s.Yields ["title"] nameless postOfNameless := by
    refine ⟨by unfold Dict.Sorted; decide, fun n => ?_, ?_⟩
    · have houtputs : s.outputs ["title"] = ["title", "author.id", "author.name"] := rfl
      rw [Dict.contains_iff, houtputs]
      exact List.Perm.mem_iff (by decide)
    · intro j hj f hf
      obtain rfl := List.mem_singleton.mp hj
      obtain rfl | rfl := List.mem_pair.mp hf <;> rfl
  refine ⟨hm, hdeclared, he, hs, hcolumns, fun j hj => ?_⟩
  obtain ⟨-, hmissing⟩ := joined_values hm hdeclared he hs hcolumns hj
  obtain rfl := List.mem_singleton.mp hj
  have hkeyed : Catalog.authors.Keyed namelessAuthor := ⟨.int 3, rfl, rfl⟩
  refine ⟨hrow, hkeyed, fun hnull => ?_⟩
  have hnone := (hmissing.mpr rfl nameless postOfNameless hrow ?_).mp hnull
  · cases hnone
  · rintro _ ⟨⟩
    exact hkeyed

/-! ## Authors without a name whose key is hidden -/

def keylessScope : Scope :=
  ⟨Catalog.authoredPosts, [⟨⟨"author", .toOne, "authors", "author_id", "id", none⟩, keylessAuthors⟩]⟩

/-- The post has an author, and comes without one. -/
theorem nameless_author_is_missed :
    let m : Engine := { catalog := keylessLibrary, randomKeys := fun _ => "" }
    let row : Row := [("author.name", .null), ("title", .str "It")]
    m.catalog.Reachable ∧ (∀ d ∈ m.catalog.declared, d.Declared)
      ∧ m.scope Catalog.authoredPosts ["author"] = .ok keylessScope
      ∧ keylessScope.Yields ["title"] nameless row
      ∧ ∀ j ∈ keylessScope.joins, nameless j = some namelessAuthor ∧ j.entity.Keyed namelessAuthor
        ∧ (decodeRow m.dialect keylessScope row).get? j.path.name = some .null := by
  intro m row
  have hrow : keylessScope.Yields ["title"] nameless row := by
    refine ⟨by unfold Dict.Sorted; decide, fun n => ?_, ?_⟩
    · have houtputs : keylessScope.outputs ["title"] = ["title", "author.name"] := rfl
      rw [Dict.contains_iff, houtputs]
      exact List.Perm.mem_iff (by decide)
    · intro j hj f hf
      obtain rfl := List.mem_singleton.mp hj
      obtain rfl := List.mem_singleton.mp hf
      rfl
  refine ⟨reachable_keylessLibrary, Catalog.declared_library, rfl, hrow, fun j hj => ?_⟩
  obtain rfl := List.mem_singleton.mp hj
  exact ⟨rfl, ⟨.int 3, rfl, rfl⟩, rfl⟩

end Engine
end EntityMapper
