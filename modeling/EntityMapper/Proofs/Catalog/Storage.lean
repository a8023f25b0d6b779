import EntityMapper.Proofs.Catalog.Paths
import EntityMapper.Proofs.Catalog.Registration
import Mathlib.Data.List.Pairwise

/-!
# Shared storage

A junction is named for the entities it links, and a foreign key may be declared twice. So relations
may share the columns of their keys, but only those that link the same entities with the same actions
and differ in the names of both sides.
-/

namespace EntityMapper

namespace Relation

/-- The relations link the same entities in the same way, under whatever names. -/
structure SameLink (r r' : Relation) : Prop where
  source : r.source = r'.source
  target : r.target = r'.target
  onDelete : r.onDelete = r'.onDelete
  onUpdate : r.onUpdate = r'.onUpdate

/-- The relations keep their keys in the same columns: of one source, or of one junction. -/
def SharesStorage (r r' : Relation) : Prop :=
  match r.kind, r'.kind with
  | .manyToOne, .manyToOne => r.source = r'.source ∧ r.foreignKey = r'.foreignKey
  | .manyToMany, .manyToMany => r.junctionName = r'.junctionName
  | _, _ => False

end Relation

namespace Catalog

variable {c : Catalog} {r r' : Relation}

/-! ## What a column says of its relation -/

theorem keyKind_inj {target target' : String} {primary primary' : Field}
    (h : keyKind r target primary = keyKind r' target' primary') :
    target = target' ∧ r.onDelete = r'.onDelete ∧ r.onUpdate = r'.onUpdate := by
  obtain ⟨htarget, -, -, hdelete, hupdate⟩ := ForeignKey.mk.inj (FieldKind.relation.inj h)
  exact ⟨htarget, hdelete, hupdate⟩

theorem Storage.sameLink_of_column {s t t' : Entity} (h : c.Storage r s t) (h' : c.Storage r' s t')
    (hkind : r.kind = .manyToOne) (hkind' : r'.kind = .manyToOne) (hsource : r.source = r'.source)
    (hkey : r.foreignKey = r'.foreignKey) : r.SameLink r' := by
  cases h with
  | junction kind => cases hkind.symm.trans kind
  | column _ found points =>
  cases h' with
  | junction kind => cases hkind'.symm.trans kind
  | column _ found' points' =>
    rw [hkey, found'] at found
    cases found
    obtain ⟨htarget, hdelete, hupdate⟩ := keyKind_inj (points.symm.trans points')
    exact ⟨hsource, htarget, hdelete, hupdate⟩

/-- Junctions of one name are one entity, because they are declared. -/
theorem Storage.sameLink_of_junction {s s' t t' : Entity} (h : c.Storage r s t)
    (h' : c.Storage r' s' t') (hdistinct : (c.declared.map (·.name)).Nodup)
    (hkind : r.kind = .manyToMany) (hkind' : r'.kind = .manyToMany)
    (hjunction : r.junctionName = r'.junctionName) : r.SameLink r' := by
  cases h with
  | column kind => cases hkind.symm.trans kind
  | junction _ _ declared name columns =>
  cases h' with
  | column kind => cases hkind'.symm.trans kind
  | junction _ _ declared' name' columns' =>
    have hsame := Keyed.eq_of_key_eq hdistinct declared declared'
      (name.trans (hjunction.trans name'.symm))
    rw [hsame, columns'] at columns
    obtain ⟨-, hcolumns⟩ := List.cons.inj columns
    obtain ⟨hsource, hcolumns⟩ := List.cons.inj hcolumns
    obtain ⟨htarget, -⟩ := List.cons.inj hcolumns
    obtain ⟨hsource, hdelete, hupdate⟩ := keyKind_inj (Prod.mk.inj hsource).2
    obtain ⟨htarget, -⟩ := keyKind_inj (Prod.mk.inj htarget).2
    exact ⟨hsource.symm, htarget.symm, hdelete.symm, hupdate.symm⟩

theorem Coherent.sameLink (hc : c.Coherent) (hr : r ∈ c.relations) (hr' : r' ∈ c.relations)
    (h : r.SharesStorage r') : r.SameLink r' := by
  obtain ⟨s, t, hs, -, hstorage⟩ := hc.backed r hr
  obtain ⟨s', t', hs', -, hstorage'⟩ := hc.backed r' hr'
  unfold Relation.SharesStorage at h
  split at h
  · rename_i hkind hkind'
    rw [h.1, hs'] at hs
    cases hs
    exact hstorage.sameLink_of_column hstorage' hkind hkind' h.1 h.2
  · rename_i hkind hkind'
    exact hstorage.sameLink_of_junction hstorage' hc.distinct hkind hkind' h
  · exact h.elim

/-! ## Two relations -/

theorem Reachable.names_ne (h : c.Reachable) (hr : r ∈ c.relations) (hr' : r' ∈ c.relations)
    (hne : r ≠ r') (hlink : r.SameLink r') :
    r.sourceName ≠ r'.sourceName ∧ r.targetName ≠ r'.targetName := by
  have hsymm : Std.Symm fun r r' : Relation =>
      ∀ entity, (r.namesAt entity).Disjoint (r'.namesAt entity) :=
    ⟨fun _ _ hapart entity _ hn hn' => hapart entity hn' hn⟩
  have hapart := h.names_apart.forall hr hr' hne
  constructor
  · intro hname
    exact hapart r.source (Relation.mem_namesAt.mpr (.inl ⟨rfl, rfl⟩))
      (Relation.mem_namesAt.mpr (.inl ⟨hlink.source.symm, hname⟩))
  · intro hname
    exact hapart r.target (Relation.mem_namesAt.mpr (.inr ⟨rfl, rfl⟩))
      (Relation.mem_namesAt.mpr (.inr ⟨hlink.target.symm, hname⟩))

/-- Two relations have one junction exactly when they link the same source and target. Relations that
share their storage link the same entities in the same way, under names that differ. -/
theorem Reachable.shared_storage (h : c.Reachable) (hr : r ∈ c.relations) (hr' : r' ∈ c.relations)
    (hne : r ≠ r') :
    (r.kind = .manyToMany → r'.kind = .manyToMany →
        (r.junctionName = r'.junctionName ↔ r.source = r'.source ∧ r.target = r'.target))
      ∧ (r.SharesStorage r' →
        r.SameLink r' ∧ r.sourceName ≠ r'.sourceName ∧ r.targetName ≠ r'.targetName) := by
  constructor
  · intro hkind hkind'
    constructor
    · intro hjunction
      have hlink := h.coherent.sameLink hr hr' (by simpa [Relation.SharesStorage, hkind, hkind'])
      exact ⟨hlink.source, hlink.target⟩
    · rintro ⟨hsource, htarget⟩
      unfold Relation.junctionName
      rw [hsource, htarget]
  · intro hshares
    have hlink := h.coherent.sameLink hr hr' hshares
    exact ⟨hlink, h.names_ne hr hr' hne hlink⟩

def tagging : Relation := .manyToMany "posts" "tags"

def labelling : Relation := { tagging with sourceName := "labels", targetName := "labelled" }

def credit : Relation := { authorship with sourceName := "credit", targetName := "credited" }

def tagged : Catalog :=
  ({} : Catalog).after [.entity authors, .entity posts, .entity tags, .relation tagging,
    .relation labelling, .relation authorship, .relation credit]

theorem shared_storage_tagged :
    tagged.relations = [tagging, labelling, authorship, credit]
      ∧ tagging.SharesStorage labelling ∧ tagging.SameLink labelling
      ∧ authorship.SharesStorage credit ∧ authorship.SameLink credit := by
  have hreachable : tagged.Reachable := Declaration.reachable_after .empty _
  have hrelations : tagged.relations = [tagging, labelling, authorship, credit] := rfl
  have hmem : ∀ r ∈ [tagging, labelling, authorship, credit], r ∈ tagged.relations := fun _ hr => hr
  have htags := hreachable.shared_storage (hmem tagging (by simp)) (hmem labelling (by simp))
    (by decide)
  have hcredit := hreachable.shared_storage (hmem authorship (by simp)) (hmem credit (by simp))
    (by decide)
  exact ⟨hrelations, rfl, (htags.2 rfl).1, ⟨rfl, rfl⟩, (hcredit.2 ⟨rfl, rfl⟩).1⟩

/-- Tags are reached as labels, and the author is credited. -/
theorem tags_are_labels :
    tagged.Reachable
      ∧ tagged.relations = [tagging, labelling, authorship, credit]
      ∧ tagging ≠ labelling ∧ tagging.kind = .manyToMany ∧ labelling.kind = .manyToMany
      ∧ tagging.junctionName = labelling.junctionName
      ∧ authorship ≠ credit ∧ authorship.kind = .manyToOne ∧ credit.kind = .manyToOne
      ∧ authorship.source = credit.source ∧ authorship.foreignKey = credit.foreignKey
      ∧ tagged.relation? "posts" "labels"
        = (tagged.relation? "posts" "tags").map ({ · with name := "labels" })
      ∧ tagged.relation? "posts" "credit"
        = (tagged.relation? "posts" "author").map ({ · with name := "credit" }) :=
  ⟨Declaration.reachable_after .empty _, rfl, by decide, rfl, rfl, rfl, by decide, rfl, rfl, rfl, rfl,
    rfl, rfl⟩

end Catalog
end EntityMapper
