import EntityMapper.Proofs.Engine.Members
import EntityMapper.Proofs.Engine.Writes

/-!
# Hidden fields

A field that is hidden is in no object that a query answers with, however deep, unless the query selects
it there or asks for a relation of its name; and it is in no row that a write gives back. Key columns
are read all the same, and taken out again.
-/

namespace EntityMapper

/-- The data is null, an object with the property, or a list of such objects. -/
def ObjectsHave (R : Dict Json → Prop) (data : Json) : Prop :=
  data = .null ∨ (∃ members, data = .obj members ∧ R members)
    ∨ ∃ items, data = .arr items ∧ ∀ item ∈ items, ∃ members, item = .obj members ∧ R members

/-- A row has a hidden field only if its level selects the field or asks for a relation of that name. A
joined row has none. -/
def discreetMembers : ObjectProperty where
  row e _ level nested members := ∀ n, e.Hides n → Dict.contains members n = true →
    n ∈ level.select ∨ n ∈ level.join ∨ n ∈ nested.map Prod.fst
  joined e members := ∀ n, e.Hides n → Dict.contains members n = false

namespace Engine

open Sql

variable {m : Engine} {e : Entity} {name n : String} {c : Command} {w : Written}

/-! ## Queries -/

theorem mem_select_of_hides {level : QueryLevel} (hfields : Entity.NamedFields e.fields)
    (hhides : e.Hides n) (h : SelectsColumn e level n) : n ∈ level.select := by
  unfold SelectsColumn at h
  split at h
  · exact absurd hhides (Entity.not_hides_of_shows hfields h)
  · exact h

theorem discreet_of_exact (hn : m.catalog.Named) (he : e ∈ m.catalog.entities) {key : Option String}
    {q : Query} {v : Json} (h : m.RowHas m.exactMembers e key q v) :
    m.RowHas discreetMembers e key q v := by
  refine RowHas.imp ?_ ?_ he q h
  · intro e key level nested members he hmembers n hhides hmember
    rcases (hmembers n).mp hmember with hselected | ⟨hasked, -⟩
    · exact .inl (mem_select_of_hides (hn.fields e he) hhides hselected)
    · exact .inr hasked
  · intro e members he hmembers n hhides
    rw [Bool.eq_false_iff]
    intro hmember
    exact Entity.not_hides_of_shows (hn.fields e he) ((hmembers n).mp hmember) hhides

/-! ## Writes -/

theorem shown_discreet (d : Dialect) (e : Entity) (row : Row) :
    ∃ members, shown d e row = .obj members ∧ discreetMembers.joined e members := by
  refine ⟨_, rfl, ?_⟩
  rintro n ⟨f, hf, hhidden⟩
  rw [Bool.eq_false_iff]
  intro hmember
  rw [Dict.contains_iff] at hmember
  obtain ⟨entry, hentry, rfl⟩ := List.mem_map.mp hmember
  obtain ⟨⟨column, value⟩, -, hshown⟩ := List.mem_filterMap.mp hentry
  dsimp only at hshown
  split at hshown
  · rename_i g hg
    split at hshown
    · cases hshown
    · rename_i hvisible
      cases hshown
      obtain rfl : g = f := Option.some.inj (hg.symm.trans hf)
      exact hvisible hhidden
  · rename_i hnone
    cases hshown
    rw [hf] at hnone
    cases hnone

theorem returns_write {rows : List Json} (h : Call.Returns (m.write e c) rows) :
    ∀ row ∈ rows, ∃ members, row = .obj members ∧ discreetMembers.joined e members := by
  obtain ⟨raw, -, h⟩ := Call.returns_bind h
  obtain rfl := Call.returns_pure h
  intro row hrow
  obtain ⟨other, -, rfl⟩ := List.mem_map.mp hrow
  exact shown_discreet m.dialect e other

theorem returns_single {id : Json} {rows : List Json}
    (hrows : ∀ row ∈ rows, ∃ members, row = .obj members ∧ discreetMembers.joined e members)
    (h : Call.Returns (m.single e id c rows) w) : ObjectsHave (discreetMembers.joined e) w.data := by
  obtain ⟨x, y, h⟩ := h
  cases rows with
  | nil => cases h
  | cons row rest =>
    cases h
    exact .inr (.inl (hrows row List.mem_cons_self))

theorem returns_insertOne {data : Json} (h : Call.Returns (m.insertOne e data) w) :
    ObjectsHave (discreetMembers.joined e) w.data := by
  obtain ⟨row, -, h⟩ := Call.returns_bind h
  obtain ⟨c, -, h⟩ := Call.returns_bind h
  obtain ⟨rows, hrows, h⟩ := Call.returns_bind h
  obtain rfl := Call.returns_pure h
  have hdiscreet := returns_write hrows
  cases rows with
  | nil => exact .inl rfl
  | cons row rest => exact .inr (.inl (hdiscreet row List.mem_cons_self))

theorem returns_updateOne {id data : Json} (h : Call.Returns (m.updateOne e id data) w) :
    ObjectsHave (discreetMembers.joined e) w.data := by
  obtain ⟨row, -, h⟩ := Call.returns_bind h
  obtain ⟨c, -, h⟩ := Call.returns_bind h
  obtain ⟨rows, hrows, h⟩ := Call.returns_bind h
  exact returns_single (returns_write hrows) h

theorem returns_deleteOne {id : Json} (h : Call.Returns (m.deleteOne e id) w) :
    ObjectsHave (discreetMembers.joined e) w.data := by
  obtain ⟨c, -, h⟩ := Call.returns_bind h
  obtain ⟨rows, hrows, h⟩ := Call.returns_bind h
  exact returns_single (returns_write hrows) h

theorem returns_updateWhere {filter : FilterInput} {data : Json}
    (h : Call.Returns (m.updateWhere e filter data) w) :
    ObjectsHave (discreetMembers.joined e) w.data := by
  obtain ⟨f, -, h⟩ := Call.returns_bind h
  obtain ⟨row, -, h⟩ := Call.returns_bind h
  obtain ⟨c, -, h⟩ := Call.returns_bind h
  obtain ⟨rows, hrows, h⟩ := Call.returns_bind h
  obtain rfl := Call.returns_pure h
  exact .inr (.inr ⟨rows, rfl, returns_write hrows⟩)

theorem returns_deleteWhere {filter : FilterInput} (h : Call.Returns (m.deleteWhere e filter) w) :
    ObjectsHave (discreetMembers.joined e) w.data := by
  obtain ⟨f, -, h⟩ := Call.returns_bind h
  obtain ⟨c, -, h⟩ := Call.returns_bind h
  obtain ⟨rows, hrows, h⟩ := Call.returns_bind h
  obtain rfl := Call.returns_pure h
  exact .inr (.inr ⟨rows, rfl, returns_write hrows⟩)

theorem returns_of_insertMany {rows : List Json} {x : Exchange}
    (h : .ok w ∈ ((m.insertMany e rows).run x).1) : ∃ data, Call.Returns (m.insertOne e data) w := by
  induction rows generalizing x with
  | nil => cases h
  | cons data rest ih =>
    have houtcomes : ((m.insertMany e (data :: rest)).run x).1
        = ((m.insertOne e data).on x).1
          :: ((m.insertMany e rest).run ((m.insertOne e data).on x).2).1 := rfl
    rw [houtcomes] at h
    rcases List.mem_cons.mp h with h | h
    · exact ⟨data, x, ((m.insertOne e data).on x).2, by rw [h]⟩
    · exact ih h

theorem written_discreet {write : Write} {x : Exchange} (h : .ok w ∈ (write.on m e x).1) :
    ObjectsHave (discreetMembers.joined e) w.data := by
  have hreturns : ∀ {c : Call Written}, .ok w ∈ [(c.on x).1] → Call.Returns c w := by
    intro c hc
    exact ⟨x, (c.on x).2, Prod.ext (List.mem_singleton.mp hc).symm rfl⟩
  cases write with
  | insertOne data => exact returns_insertOne (hreturns h)
  | insertMany rows =>
    obtain ⟨data, hone⟩ := returns_of_insertMany h
    exact returns_insertOne hone
  | updateOne id data => exact returns_updateOne (hreturns h)
  | deleteOne id => exact returns_deleteOne (hreturns h)
  | updateWhere filter data => exact returns_updateWhere (hreturns h)
  | deleteWhere filter => exact returns_deleteWhere (hreturns h)

/-! ## The engine -/

/-- Over every catalog that declarations lead to, whatever fields they hide: the answer to a query has a
hidden field only where the query asks for it, when the database gives each SELECT the columns it asks
for; and the outcome of a write has none, whatever the database gives. -/
theorem hidden_fields_are_not_shown (hm : m.catalog.Reachable)
    (hdeclared : ∀ d ∈ m.catalog.declared, d.Declared) (he : m.catalog.entity? name = some e) :
    (∀ {q : Query} {x y : Exchange} {found : Found}, (m.findMany e q).on x = (.ok found, y) →
        Call.Conforms Statement.Selects x y →
        ∀ row ∈ found.data, m.RowHas discreetMembers e none q row)
      ∧ ∀ {write : Write} {x : Exchange} {w : Written}, .ok w ∈ (write.on m e x).1 →
        ObjectsHave (discreetMembers.joined e) w.data := by
  have hnamed := hm.named hdeclared
  have hregistered : m.catalog.entity? e.name = some e := by
    rwa [Catalog.name_of_entity? he]
  refine ⟨fun h hxy row hrow => ?_, written_discreet⟩
  have hexact := (ensures_findMany hm.sound hnamed hregistered _).of_conforms h hxy row hrow
  exact discreet_of_exact hnamed (Catalog.mem_of_entity? he) hexact

/-! ## Authors with a hidden key -/

def keylessAuthors : Entity :=
  ⟨"authors", [{ Field.primary "id" .integer with hidden := true }, .text "name"], {}, rfl⟩

def keylessLibrary : Catalog :=
  { Catalog.library with entities := [keylessAuthors, Catalog.authoredPosts] }

theorem reachable_keylessLibrary : keylessLibrary.Reachable := by
  have hhidden : Catalog.library.setFieldHidden "authors" "id" true = .ok keylessLibrary := rfl
  exact .setFieldHidden Catalog.reachable_library hhidden

def namesRead : Statement :=
  ⟨"SELECT \"name\", \"id\" FROM \"authors\" WHERE \"id\" IN (?) ORDER BY \"id\" ASC", [.int 3]⟩

/-- The key of the author is read, to give the author to the post, and not shown. -/
theorem hidden_fields_are_not_shown_authors :
    let m : Engine := { catalog := keylessLibrary, randomKeys := fun _ => "", softscans := false }
    let x : Exchange := { replies := titleReplies }
    let z : Exchange := { replies := [.rows [[("id", .int 3), ("name", .str "Ada")]]] }
    m.catalog.Reachable ∧ (∀ d ∈ m.catalog.declared, d.Declared)
      ∧ m.catalog.entity? "posts" = some Catalog.authoredPosts
      ∧ m.catalog.entity? "authors" = some keylessAuthors
      ∧ (∃ found y, (m.findMany Catalog.authoredPosts (titles "author")).on x = (.ok found, y)
        ∧ Call.Conforms Statement.Selects x y
        ∧ found.data = [.obj [("author", .obj [("name", .str "Ada")]), ("title", .str "It")]]
        ∧ ∀ row ∈ found.data, m.RowHas discreetMembers Catalog.authoredPosts none (titles "author") row)
      ∧ ∃ w, .ok w ∈ ((Write.deleteOne (.int 3)).on m keylessAuthors z).1
        ∧ w.data = .obj [("name", .str "Ada")]
        ∧ ObjectsHave (discreetMembers.joined keylessAuthors) w.data := by
  intro m x z
  have hm : m.catalog.Reachable := reachable_keylessLibrary
  have hdeclared : ∀ d ∈ m.catalog.declared, d.Declared := Catalog.declared_library
  have hposts : m.catalog.entity? "posts" = some Catalog.authoredPosts := rfl
  have hauthors : m.catalog.entity? "authors" = some keylessAuthors := rfl
  have hfound : ∃ found y, (m.findMany Catalog.authoredPosts (titles "author")).on x = (.ok found, y)
      ∧ y.log = x.log ++ [titlesRead, namesRead].map .query
      ∧ found.data = [.obj [("author", .obj [("name", .str "Ada")]), ("title", .str "It")]] := by
    subst m x
    refine ⟨_, _, rfl, ?_, ?_⟩
    · rfl
    · rfl
  have hwritten : ∃ w, .ok w ∈ ((Write.deleteOne (.int 3)).on m keylessAuthors z).1
      ∧ w.data = .obj [("name", .str "Ada")] := by
    subst m z
    exact ⟨_, List.mem_singleton.mpr rfl, rfl⟩
  obtain ⟨found, y, h, hlog, hdata⟩ := hfound
  obtain ⟨w, hw, hwdata⟩ := hwritten
  have hnames : namesRead.columns? = some ["name", "id"] := by cbv
  have hxy : Call.Conforms Statement.Selects x y :=
    (answered_titles hnames (by decide)).conforms hlog
  exact ⟨hm, hdeclared, hposts, hauthors,
    ⟨found, y, h, hxy, hdata, (hidden_fields_are_not_shown hm hdeclared hposts).1 h hxy⟩,
    w, hw, hwdata, (hidden_fields_are_not_shown hm hdeclared hauthors).2 hw⟩

end Engine
end EntityMapper
