import EntityMapper.Proofs.Engine.Rows
import EntityMapper.Proofs.Sql.Qualifiers

/-!
# Aliases of joined tables

Each relation is joined under its name, once, so two tables have one alias only where a relation is
named like the alias of the main table. Nothing refuses such a name: its columns and those of the main
table cannot be told apart.
-/

namespace EntityMapper

open Sql

namespace Engine

variable {m : Engine} {e : Entity} {joins : List String} {s : Scope}

theorem Joined.aliases (hs : m.Joined e joins s) (hjoins : joins ≠ []) :
    tableAliases s.fromPieces = mainAlias :: s.joins.map (·.path.name) := by
  have hsome : s.joins ≠ [] := by
    intro hnone
    refine hjoins (List.eq_nil_iff_forall_not_mem.mpr fun n hn => ?_)
    rw [← hs.names, hnone] at hn
    cases hn
  rw [Scope.tableAliases_from, Scope.mainQualifier, if_neg (by simpa using hsome)]
  rfl

theorem Joined.aliases_nil (hs : m.Joined e [] s) : tableAliases s.fromPieces = [] := by
  have hnone : s.joins = [] :=
    List.map_eq_nil_iff.mp (List.eq_nil_iff_forall_not_mem.mpr fun n hn => nomatch (hs.names n).mp hn)
  rw [Scope.tableAliases_from, Scope.mainQualifier, hnone]
  rfl

theorem Joined.nodup_aliases_iff (hs : m.Joined e joins s) :
    (tableAliases s.fromPieces).Nodup ↔ mainAlias ∉ joins := by
  by_cases hjoins : joins = []
  · subst hjoins
    rw [hs.aliases_nil]
    simp
  · rw [hs.aliases hjoins, List.nodup_cons, hs.names]
    exact and_iff_left hs.distinct

/-- How many tables a column can be one of. -/
theorem Joined.count_aliases (hs : m.Joined e joins s) {q : String}
    (hq : q ∈ tableAliases s.fromPieces) :
    (tableAliases s.fromPieces).count q = if q = mainAlias ∧ mainAlias ∈ joins then 2 else 1 := by
  by_cases hjoins : joins = []
  · subst hjoins
    rw [hs.aliases_nil] at hq
    cases hq
  rw [hs.aliases hjoins] at hq ⊢
  have hnames := hs.names mainAlias
  rw [List.count_cons, hs.distinct.count]
  by_cases hmain : q = mainAlias
  · subst hmain
    by_cases hjoined : mainAlias ∈ joins <;> simp [hnames, hjoined]
  · have hjoined : q ∈ s.joins.map (·.path.name) := (List.mem_cons.mp hq).resolve_left hmain
    simp [hmain, hjoined, Ne.symm hmain]

/-- With joins, a statement has a table under the alias of the main table and one under the name of
each joined relation. The aliases are distinct unless a relation with the alias of the main table for
its name is joined. Every qualified column is then one of exactly one table; otherwise those of the
main table may be columns of two. Columns and aliases are those of the pieces that the statement is
made of. -/
theorem aliases_distinct_iff (h : m.scope e joins = .ok s) :
    (∀ a, a ∈ tableAliases s.fromPieces ↔ joins ≠ [] ∧ (a = mainAlias ∨ a ∈ joins))
      ∧ ((tableAliases s.fromPieces).Nodup ↔ mainAlias ∉ joins)
      ∧ ∀ (d : Dialect) (c : Command), c.ReadsFrom d s →
        c.statement d = d.statement c.pieces
          ∧ (∃ before after, c.pieces = before ++ .word " FROM " :: (s.fromPieces ++ after))
          ∧ ∀ q ∈ qualifiers c.pieces, (tableAliases s.fromPieces).count q
            = if q = mainAlias ∧ mainAlias ∈ joins then 2 else 1 := by
  have hs := joined_scope h
  refine ⟨fun a => ?_, hs.nodup_aliases_iff, fun d c hc => ?_⟩
  · by_cases hjoins : joins = []
    · subst hjoins
      simp [hs.aliases_nil]
    · rw [hs.aliases hjoins, List.mem_cons, hs.names]
      exact (and_iff_right hjoins).symm
  · exact ⟨c.statement_eq d, hc.tables, fun q hq => hs.count_aliases (hc.alias_of_qualifier hq)⟩

/-- Posts joined with their authors under a name. -/
def postsWith (name : String) : Scope :=
  ⟨Catalog.authoredPosts, [⟨⟨name, .toOne, "authors", "author_id", "id", none⟩, Catalog.authors⟩]⟩

/-- The count of the posts of an author. -/
theorem aliases_distinct_iff_library :
    let m : Engine := { catalog := Catalog.library, randomKeys := fun _ => "" }
    m.scope Catalog.authoredPosts ["author"] = .ok (postsWith "author")
      ∧ tableAliases (postsWith "author").fromPieces = ["main", "author"]
      ∧ (tableAliases (postsWith "author").fromPieces).Nodup
      ∧ ∃ c : Command, c.ReadsFrom .sqlite (postsWith "author")
        ∧ qualifiers c.pieces = ["author", "main", "author"]
        ∧ ∀ q ∈ qualifiers c.pieces, (tableAliases (postsWith "author").fromPieces).count q = 1 := by
  intro m
  have hscope : m.scope Catalog.authoredPosts ["author"] = .ok (postsWith "author") := rfl
  obtain ⟨-, hnodup, hcommands⟩ := aliases_distinct_iff hscope
  have hdistinct : mainAlias ∉ ["author"] := by decide
  let conditions : List Condition :=
    [.compare ⟨some "author", "name"⟩ .eq ⟨.str "Ada", some (.text "name")⟩]
  have hcount : Command.counting .sqlite (postsWith "author") [("author.name", [("$eq", .str "Ada")])]
      = .ok (.count (postsWith "author") conditions) := rfl
  have hreads : Command.ReadsFrom (.count (postsWith "author") conditions) .sqlite (postsWith "author") :=
    .inr ⟨_, hcount⟩
  refine ⟨hscope, rfl, hnodup.mpr hdistinct, _, hreads, rfl, fun q hq => ?_⟩
  rw [(hcommands .sqlite _ hreads).2.2 q hq, if_neg fun h => hdistinct h.2]

/-! ## A relation named like the main table -/

def authorshipAsMain : Relation := { Catalog.authorship with sourceName := mainAlias }

def libraryOfMain : Catalog := { Catalog.library with relations := [authorshipAsMain] }

theorem reachable_libraryOfMain : libraryOfMain.Reachable :=
  .addRelation (r := authorshipAsMain) Catalog.reachable_posts rfl

/-- The relation is declared and joined, and its table gets the alias of the main one. -/
theorem posts_joined_as_main :
    let m : Engine := { catalog := libraryOfMain, randomKeys := fun _ => "" }
    m.catalog.Reachable
      ∧ m.scope Catalog.authoredPosts ["main"] = .ok (postsWith "main")
      ∧ tableAliases (postsWith "main").fromPieces = ["main", "main"]
      ∧ ¬(tableAliases (postsWith "main").fromPieces).Nodup
      ∧ Command.counting m.dialect (postsWith "main") [] = .ok (.count (postsWith "main") [])
      ∧ ((Command.count (postsWith "main") []).statement m.dialect).sql
        = "SELECT COUNT(*) AS \"count\" FROM \"posts\" AS \"main\""
          ++ " LEFT JOIN \"authors\" AS \"main\" ON \"main\".\"id\" = \"main\".\"author_id\"" := by
  intro m
  have haliases : tableAliases (postsWith "main").fromPieces = ["main", "main"] := rfl
  refine ⟨reachable_libraryOfMain, rfl, haliases, ?_, rfl, rfl⟩
  rw [haliases]
  decide

end Engine
end EntityMapper
