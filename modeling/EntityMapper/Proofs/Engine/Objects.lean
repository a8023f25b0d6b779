import EntityMapper.Proofs.Call.Replies
import EntityMapper.Proofs.Engine.Rows

/-!
# The objects of an answer

A query is answered with objects inside objects: each row has the rows joined to it and those of the
relations loaded with it, as the levels of the query ask for them. Which members an object has is said
level by level, over a database that gives each SELECT the columns it asks for.
-/

namespace EntityMapper

open Sql Stitching

/-- What is asked of the objects of an answer. -/
structure ObjectProperty where
  /-- Of the members of a row. The rows of a nested level are those that a key column relates. -/
  row : Entity → Option String → QueryLevel → List (String × Query) → Dict Json → Prop
  /-- Of the members of a row that is joined to another. -/
  joined : Entity → Dict Json → Prop

/-- A relation gives one row or null, or else a list of rows. -/
def Path.Gives (p : Path) (R : Json → Prop) (value : Json) : Prop :=
  match p.direction with
  | .toOne => value = .null ∨ R value
  | _ => ∃ items, value = .arr items ∧ ∀ item ∈ items, R item

theorem Path.Gives.imp {p : Path} {R R' : Json → Prop} {v : Json} (h : p.Gives R v)
    (himp : ∀ item, R item → R' item) : p.Gives R' v := by
  unfold Path.Gives at h ⊢
  split at h
  · exact h.imp_right (himp v)
  · obtain ⟨items, rfl, hitems⟩ := h
    exact ⟨items, rfl, fun item hitem => himp item (hitems item hitem)⟩

namespace Engine

variable {m : Engine} {P P' : ObjectProperty}

/-- The value of a joined relation: an object with the property, or null. -/
def JoinedHas (m : Engine) (P : ObjectProperty) (e : Entity) (name : String) (value : Json) : Prop :=
  ∃ p related, m.path e name = .ok p ∧ m.catalog.entity p.related = .ok related
    ∧ (value = .null ∨ ∃ members, value = .obj members ∧ P.joined related members)

mutual
/-- The value is an object that has the property, and so do all objects in it, each for the level of the
query that it stands for. A relation that is joined and loaded as well is there as it is loaded. -/
def RowHas (m : Engine) (P : ObjectProperty) (e : Entity) (key : Option String) : Query → Json → Prop
  | .node level nested, value => ∃ members, value = .obj members
      ∧ P.row e key level nested members
      ∧ (∀ name ∈ level.join, name ∉ nested.map Prod.fst → ∀ v, Dict.get? members name = some v →
        m.JoinedHas P e name v)
      ∧ RelatedHas m P e nested members

/-- Of two queries for one relation the later counts. -/
def RelatedHas (m : Engine) (P : ObjectProperty) (e : Entity) :
    List (String × Query) → Dict Json → Prop
  | [], _ => True
  | (name, q) :: rest, members =>
    (name ∉ rest.map Prod.fst → ∀ v, Dict.get? members name = some v →
        ∃ p related, m.path e name = .ok p ∧ m.catalog.entity p.related = .ok related
          ∧ p.Gives (RowHas m P related (some p.theirKey) q) v)
      ∧ RelatedHas m P e rest members
end

/-! ## Weaker properties -/

mutual
theorem RowHas.imp
    (hrow : ∀ {e key level nested members}, e ∈ m.catalog.entities →
      P.row e key level nested members → P'.row e key level nested members)
    (hjoined : ∀ {e members}, e ∈ m.catalog.entities → P.joined e members → P'.joined e members)
    {e : Entity} {key : Option String} {v : Json} (he : e ∈ m.catalog.entities) :
    (q : Query) → m.RowHas P e key q v → m.RowHas P' e key q v
  | .node level nested, h => by
    unfold RowHas at h ⊢
    obtain ⟨members, rfl, hmembers, hjoins, hrelated⟩ := h
    refine ⟨members, rfl, hrow he hmembers, fun name hname hnew v hv => ?_,
      RelatedHas.imp hrow hjoined nested hrelated⟩
    obtain ⟨p, related, hp, hentity, hvalue⟩ := hjoins name hname hnew v hv
    refine ⟨p, related, hp, hentity, hvalue.imp_right ?_⟩
    rintro ⟨inner, rfl, hinner⟩
    exact ⟨inner, rfl, hjoined (Catalog.mem_of_entity? (Catalog.entity?_of_entity hentity)) hinner⟩

theorem RelatedHas.imp
    (hrow : ∀ {e key level nested members}, e ∈ m.catalog.entities →
      P.row e key level nested members → P'.row e key level nested members)
    (hjoined : ∀ {e members}, e ∈ m.catalog.entities → P.joined e members → P'.joined e members)
    {e : Entity} {members : Dict Json} :
    (nested : List (String × Query)) → m.RelatedHas P e nested members →
      m.RelatedHas P' e nested members
  | [], _ => trivial
  | (name, q) :: rest, h => by
    unfold RelatedHas at h ⊢
    obtain ⟨hfirst, hrest⟩ := h
    refine ⟨fun hlast v hv => ?_, RelatedHas.imp hrow hjoined rest hrest⟩
    obtain ⟨p, related, hp, hentity, hgives⟩ := hfirst hlast v hv
    have hmem := Catalog.mem_of_entity? (Catalog.entity?_of_entity hentity)
    exact ⟨p, related, hp, hentity, hgives.imp fun item => RowHas.imp hrow hjoined hmem q⟩
end

/-- Nothing else is asked of an object with fewer members. -/
theorem RelatedHas.of_get? {e : Entity} {nested : List (String × Query)} {members fewer : Dict Json}
    (h : m.RelatedHas P e nested members)
    (hfewer : ∀ n v, Dict.get? fewer n = some v → Dict.get? members n = some v) :
    m.RelatedHas P e nested fewer := by
  induction nested with
  | nil => trivial
  | cons first rest ih =>
    obtain ⟨name, q⟩ := first
    unfold RelatedHas at h ⊢
    exact ⟨fun hlast v hv => h.1 hlast v (hfewer name v hv), ih h.2⟩

/-! ## Related rows -/

section Given

variable {p : Path} {level : QueryLevel} {f : Fetched} {R : Json → Prop} {rows : List Row}

/-- One row was given what its relation leads to. -/
def Given (p : Path) (R : Json → Prop) (row row' : Row) : Prop :=
  ∃ v, row' = row.insert p.name v ∧ p.Gives R v

theorem given_map {value : Row → Json} (h : ∀ row ∈ rows, p.Gives R (value row)) :
    List.Forall₂ (Given p R) rows (rows.map fun row => row.insert p.name (value row)) := by
  rw [List.forall₂_map_right_iff, List.forall₂_same]
  exact fun row hrow => ⟨value row, rfl, h row hrow⟩

theorem gives_nothing : p.Gives R (nothing p) := by
  unfold Path.Gives nothing
  cases p.direction
  · exact .inl rfl
  · exact ⟨[], rfl, by simp⟩
  · exact ⟨[], rfl, by simp⟩

theorem gives_page {items : List Json} (hmany : p.direction ≠ .toOne) (h : ∀ item ∈ items, R item) :
    p.Gives R (page level items) := by
  have hpage : ∃ shown, page level items = .arr shown ∧ ∀ item ∈ shown, R item :=
    ⟨_, rfl, fun item hitem => h item (List.mem_of_mem_drop (List.mem_of_mem_take hitem))⟩
  unfold Path.Gives
  cases hdirection : p.direction
  · exact absurd hdirection hmany
  · exact hpage
  · exact hpage

theorem mem_of_mem_keyed {column text : String} {row : Row} (h : (text, row) ∈ keyed column rows) :
    row ∈ rows := by
  obtain ⟨other, hother, hkey⟩ := List.mem_filterMap.mp h
  obtain ⟨key, -, hentry⟩ := Option.map_eq_some_iff.mp hkey
  cases hentry
  exact hother

theorem given_stitchOne (hone : p.direction = .toOne) (h : ∀ row ∈ f.rows, R (f.strip row)) :
    List.Forall₂ (Given p R) rows (stitchOne p f rows) := by
  unfold stitchOne
  refine given_map fun row _ => ?_
  unfold Path.Gives
  rw [hone]
  dsimp only
  cases hrelated : (row.get? p.ourKey).bind fun key =>
      (Dict.ofList (keyed p.theirKey f.rows)).get? (keyText key) with
  | none => exact .inl rfl
  | some related =>
    obtain ⟨key, -, hget⟩ := Option.bind_eq_some_iff.mp hrelated
    have hmem := mem_of_mem_keyed (Dict.mem_of_mem_ofList (Dict.mem_of_get? hget))
    exact .inr (h related hmem)

theorem given_giveGroups {groups : Dict (List Json)} (hmany : p.direction ≠ .toOne)
    (h : ∀ text, ∀ item ∈ (groups.get? text).getD [], R item) :
    List.Forall₂ (Given p R) rows (giveGroups p level groups rows) := by
  -- A group goes to the first row of its key. What is left for the others are fewer groups.
  induction rows generalizing groups with
  | nil => exact .nil
  | cons row rest ih =>
    unfold giveGroups
    split
    · exact .cons ⟨_, rfl, gives_page hmany (by simp)⟩ (ih h)
    · rename_i key _
      refine .cons ⟨_, rfl, gives_page hmany (h _)⟩ (ih fun text item hitem => ?_)
      rw [Dict.get?_erase] at hitem
      split at hitem
      · simp at hitem
      · exact h text item hitem

theorem given_stitchMany (hmany : p.direction ≠ .toOne) (h : ∀ row ∈ f.rows, R (f.strip row)) :
    List.Forall₂ (Given p R) rows (stitchMany p level f rows) := by
  unfold stitchMany
  refine given_giveGroups hmany fun text item hitem => ?_
  rw [Dict.get?_group] at hitem
  obtain ⟨entry, hentry, rfl⟩ := List.mem_map.mp hitem
  obtain ⟨⟨text', row⟩, hrow, rfl⟩ := List.mem_map.mp (List.mem_filter.mp hentry).1
  exact h row (mem_of_mem_keyed hrow)

theorem given_stitchLinked {j : Junction} {pairs : List Row} (hmany : p.direction ≠ .toOne)
    (h : ∀ row ∈ f.rows, R (f.strip row)) :
    List.Forall₂ (Given p R) rows (stitchLinked p j level pairs f rows) := by
  unfold stitchLinked
  refine given_map fun row _ => gives_page hmany fun item hitem => ?_
  split at hitem
  · obtain ⟨other, hother, rfl⟩ := List.mem_map.mp hitem
    exact h other (List.mem_filter.mp hother).1
  · cases hitem

theorem ensures_fetchPairs {D : Statement → Row → Prop} {j : Junction} {keys : List Json} :
    Call.Ensures D (m.fetchPairs j keys) fun _ => True := by
  refine (Call.ensures_ofExcept fun _ _ => trivial).bind_returns fun junction _ => ?_
  refine (Call.ensures_lift fun _ _ => trivial).bind_returns fun cmd _ => ?_
  exact Call.ensures_query fun _ _ => trivial

/-- Every row is given what its relation leads to, when what is loaded has the property. -/
theorem ensures_attach {D : Statement → Row → Prop} {R : Entity → Json → Prop}
    {load : Entity → String → List Json → Call Fetched}
    (hload : ∀ related keys, m.catalog.entity p.related = .ok related →
      Call.Ensures D (load related p.theirKey keys) fun f => ∀ row ∈ f.rows, R related (f.strip row)) :
    Call.Ensures D (m.attach p level load rows) fun out => ∃ related,
      m.catalog.entity p.related = .ok related ∧ List.Forall₂ (Given p (R related)) rows out := by
  refine (Call.ensures_ofExcept fun _ _ => trivial).bind_returns fun related hrelated => ?_
  have hentity := Call.returns_ofExcept hrelated
  have hloads := fun keys => hload related keys hentity
  refine Call.Ensures.imp (P := List.Forall₂ (Given p (R related)) rows) ?_ fun out hout =>
    ⟨related, hentity, hout⟩
  dsimp only
  split
  · exact Call.ensures_pure (given_map fun _ _ => gives_nothing)
  · split
    · rename_i j hdirection _
      refine ensures_fetchPairs.bind_returns fun pairs _ => ?_
      exact (hloads _).bind fun f _ => Call.ensures_pure (given_stitchLinked (by simp [hdirection]))
    · rename_i hdirection
      exact (hloads _).bind fun f _ => Call.ensures_pure (given_stitchOne hdirection)
    · rename_i hone _
      exact (hloads _).bind fun f _ => Call.ensures_pure (given_stitchMany hone)

end Given

end Engine
end EntityMapper
