import EntityMapper.Proofs.Catalog.Reachable
import EntityMapper.Registration

/-!
# Registration as a whole or not at all

Each call does all that its declaration asks for, or leaves the catalog as it was. What a call has
added is there for good: the same call made again, after whatever other calls, changes nothing.
-/

namespace EntityMapper

namespace Registration

variable {α β : Type} {c : Catalog}

theorem on_bind (m : Registration α) (f : α → Registration β) (c : Catalog) :
    (m >>= f).on c =
      match m.on c with
      | (.ok a, c') => (f a).on c'
      | (.error e, c') => (.error e, c') := by
  unfold on
  rw [ExceptT.run_bind, StateT.run_bind]
  change (match m.run.run c with | (r, y) => _) = _
  rcases m.run.run c with ⟨_ | _, _⟩ <;> rfl

theorem on_get : on get c = (.ok c, c) := rfl

theorem on_require (name : String) : (require name).on c = (c.entity name, c) := by
  unfold require
  rw [on_bind]
  rfl

/-! ## Each call -/

/-- What a change that is made as a whole or not at all answers, and the catalog it leaves. -/
def settled (c : Catalog) : Except ConfigError Catalog → Except ConfigError Unit × Catalog
  | .ok c' => (.ok (), c')
  | .error e => (.error e, c)

/-- After a part that only looks at the catalog the rest decides. -/
theorem settled_bind {m : Registration α} {f : α → Registration Unit} {x : Except ConfigError α}
    {g : α → Except ConfigError Catalog} (hm : m.on c = (x, c))
    (h : ∀ a, x = .ok a → (f a).on c = settled c (g a)) : (m >>= f).on c = settled c (x >>= g) := by
  rw [on_bind, hm]
  cases x with
  | ok a => exact h a rfl
  | error e => rfl

theorem settled_modify {m : Registration Unit} {x : Except ConfigError Catalog} (f : Catalog → Catalog)
    (hm : m.on c = settled c x) :
    (m >>= fun _ => modify f).on c = settled c (x >>= fun c' => return f c') := by
  rw [on_bind, hm]
  cases x <;> rfl

theorem settled_addEntity (e : Entity) : (addEntity e).on c = settled c (c.addEntity e) := by
  unfold addEntity Catalog.addEntity
  rw [on_bind, on_get]
  dsimp only
  cases c.declared.find? (·.name == e.name) with
  | some existing =>
    dsimp only
    split <;> rfl
  | none => rfl

theorem settled_changeEntity (name : String) (change : Entity → Except ConfigError Entity) :
    (changeEntity name change).on c = settled c (do
      let e ← change (← c.entity name)
      return c.replaceEntity name e) :=
  settled_bind (on_require name) fun e _ => settled_bind (x := change e) rfl fun _ _ => rfl

theorem settled_addStorage (r : Relation) {source target : Entity}
    (h : c.entity r.source = .ok source) :
    (addStorage r source.primary target.primary).on c
      = settled c (c.addStorage r source target) := by
  unfold addStorage Catalog.addStorage
  cases r.kind with
  | manyToOne =>
    refine settled_bind (x := checkIdentifier r.foreignKey) rfl fun _ _ => ?_
    rw [settled_changeEntity, h]
    rfl
  | manyToMany =>
    dsimp only
    split
    · rfl
    · exact settled_bind (x := Catalog.junctionEntity r source.primary target.primary) rfl
        fun junction _ => settled_addEntity junction

theorem settled_addRelation (r : Relation) : (addRelation r).on c = settled c (c.addRelation r) := by
  unfold addRelation Catalog.addRelation
  rw [on_bind, on_get]
  dsimp only
  split
  · rfl
  refine settled_bind (on_require r.source) fun source hsource => ?_
  refine settled_bind (on_require r.target) fun target _ => ?_
  refine settled_bind (x := checkIdentifier r.sourceName) rfl fun _ _ => ?_
  refine settled_bind (x := checkIdentifier r.targetName) rfl fun _ _ => ?_
  refine settled_bind (x := c.checkUnused r.source r.sourceName) rfl fun _ _ => ?_
  refine settled_bind (x := c.checkUnused r.target r.targetName) rfl fun _ _ => ?_
  exact settled_modify _ (settled_addStorage r hsource)

theorem settled_addIndex (i : Index) : (addIndex i).on c = settled c (c.addIndex i) := by
  unfold addIndex Catalog.addIndex
  refine settled_bind (x := checkIdentifier i.name) rfl fun _ _ => ?_
  refine settled_bind (on_require i.entity) fun e _ => ?_
  split
  · rfl
  refine settled_bind (x := i.fields.forM (Catalog.checkStored e)) rfl fun _ _ => ?_
  rw [on_bind, on_get]
  dsimp only
  cases c.indices.find? (·.name == i.name) with
  | some existing =>
    dsimp only
    split <;> rfl
  | none => rfl

end Registration

open Registration (settled)

namespace Declaration

variable {c c' : Catalog} {d : Declaration} {fault : ConfigError}

/-- The declaration as a change of a whole catalog. -/
def apply (c : Catalog) : Declaration → Except ConfigError Catalog
  | .entity e => c.addEntity e
  | .relation r => c.addRelation r
  | .index i => c.addIndex i
  | .visibility name field hidden => c.setFieldHidden name field hidden

theorem on_eq_settled (d : Declaration) (c : Catalog) : d.on c = settled c (d.apply c) := by
  cases d with
  | entity e => exact Registration.settled_addEntity e
  | relation r => exact Registration.settled_addRelation r
  | index i => exact Registration.settled_addIndex i
  | visibility name field hidden => exact Registration.settled_changeEntity name _

theorem on_of_apply (h : d.apply c = .ok c') : d.on c = (.ok (), c') := by
  rw [on_eq_settled, h]
  rfl

theorem on_of_apply_error (h : d.apply c = .error fault) : d.on c = (.error fault, c) := by
  rw [on_eq_settled, h]
  rfl

/-! ## What a call adds -/

theorem extends_apply (h : d.apply c = .ok c') : c.Extends c' := by
  cases d with
  | entity e => exact Catalog.extends_addEntity h
  | relation r => exact Catalog.extends_addRelation h
  | index i => exact Catalog.extends_addIndex h
  | visibility name field hidden => exact Catalog.extends_setFieldHidden h

/-- What each call that succeeds keeps is there after all of them, because the others change
nothing. -/
theorem after_induction {P : Catalog → Prop} {calls : List Declaration} (hc : P c)
    (step : ∀ d ∈ calls, ∀ c c', P c → d.apply c = .ok c' → P c') : P (c.after calls) := by
  induction calls generalizing c with
  | nil => exact hc
  | cons d calls ih =>
    obtain ⟨hd, hcalls⟩ := List.forall_mem_cons.mp step
    have hnext : P (d.on c).2 := by
      cases h : d.apply c with
      | ok c' =>
        rw [on_of_apply h]
        exact hd c c' hc h
      | error fault =>
        rw [on_of_apply_error h]
        exact hc
    exact ih hnext hcalls

theorem extends_after (c : Catalog) (calls : List Declaration) : c.Extends (c.after calls) :=
  after_induction (.refl c) fun _ _ _ _ hc h => hc.trans (extends_apply h)

theorem reachable_apply (hc : c.Reachable) (h : d.apply c = .ok c') : c'.Reachable := by
  cases d with
  | entity e => exact .addEntity hc h
  | relation r => exact .addRelation hc h
  | index i => exact .addIndex hc h
  | visibility name field hidden => exact .setFieldHidden hc h

theorem reachable_after (hc : c.Reachable) (calls : List Declaration) :
    (c.after calls).Reachable :=
  after_induction hc fun _ _ _ _ => reachable_apply

/-- The call adds something that has a place of its own in the catalog; visibility has none. -/
def Adds : Declaration → Prop
  | .visibility _ _ _ => False
  | _ => True

/-- The catalog takes one call for the other. -/
def Same : Declaration → Declaration → Prop
  | .entity e, .entity e' => (e == e') = true
  | .relation r, .relation r' => r = r'
  | .index i, .index i' => i = i'
  | _, _ => False

def DefinedLimits : Declaration → Prop
  | .entity e => e.DefinedLimits
  | _ => True

theorem same_self (hadds : d.Adds) (h : d.DefinedLimits) : d.Same d := by
  cases d with
  | entity e => exact Entity.beq_self_iff.mpr h
  | visibility name field hidden => exact hadds.elim
  | _ => rfl

/-- What the declaration adds is there. -/
def Present (c : Catalog) : Declaration → Prop
  | .entity e =>
    ∃ existing, c.declared.find? (·.name == e.name) = some existing
      ∧ (existing = e ∨ (existing == e) = true)
  | .relation r => r ∈ c.relations
  | .index i =>
    Text.isIdentifier i.name = true ∧ c.Indexes i ∧ c.indices.find? (·.name == i.name) = some i
  | .visibility _ _ _ => False

theorem Present.extend (h : d.Present c) (hc : c.Extends c') : d.Present c' := by
  cases d with
  | entity e =>
    obtain ⟨existing, hfound, hstands⟩ := h
    exact ⟨existing, hc.declared.find?_eq_some hfound, hstands⟩
  | relation r => exact hc.relations.subset h
  | index i =>
    obtain ⟨hname, hindexes, hfound⟩ := h
    exact ⟨hname, hindexes.extend hc, hc.indices.find?_eq_some hfound⟩
  | visibility name field hidden => exact h.elim

open Catalog (authors posts authorship library)

/-- A relation whose foreign key would be the title of a post. -/
def titled : Relation :=
  { authorship with sourceName := "writer", targetName := "works", foreignKey := "title" }

end Declaration
end EntityMapper
