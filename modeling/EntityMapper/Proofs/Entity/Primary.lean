import EntityMapper.Proofs.Entity.Declarations
import EntityMapper.Proofs.Entity.Equality
import EntityMapper.Proofs.Entity.Stored

/-!
# The primary field of an entity

A declared entity has one primary field and no other, and `Entity.primary` is that field. No change of
the entity adds a second one. Callers may write it only when it was declared so.
-/

namespace EntityMapper.Entity

variable {e : Entity} {f : Field} {fields : List Field}

/-- No two of the fields are primary. -/
def KeyedOnce (fields : List Field) : Prop := (fields.filter Field.isPrimary).length ≤ 1

theorem filter_primary (h : KeyedOnce e.fields) : e.fields.filter Field.isPrimary = [e.primary] := by
  have hmem : e.primary ∈ e.fields.filter Field.isPrimary := List.mem_filter.mpr e.primary_mem
  unfold KeyedOnce at h
  match hfound : e.fields.filter Field.isPrimary with
  | [] => simp [hfound] at hmem
  | [p] =>
    rw [hfound] at hmem
    rw [List.mem_singleton.mp hmem]
  | p :: q :: rest => simp [hfound] at h

theorem filter_eq_nil_of_find? (h : fields.find? Field.isPrimary = none) :
    fields.filter Field.isPrimary = [] :=
  List.filter_eq_nil_iff.mpr (List.find?_eq_none.mp h)

theorem KeyedOnce.front (hnew : New fields f) (h : KeyedOnce fields) : KeyedOnce (f :: fields) := by
  unfold KeyedOnce at h ⊢
  cases hprimary : f.isPrimary with
  | true => simp [filter_eq_nil_of_find? (hnew.primary hprimary), hprimary]
  | false => simpa [hprimary] using h

theorem KeyedOnce.behind (hnew : New fields f) (h : KeyedOnce fields) : KeyedOnce (fields ++ [f]) := by
  unfold KeyedOnce at h ⊢
  rw [List.filter_append, List.length_append]
  cases hprimary : f.isPrimary with
  | true => simp [filter_eq_nil_of_find? (hnew.primary hprimary), hprimary]
  | false => simpa [hprimary] using h

theorem KeyedOnce.hide (h : KeyedOnce fields) (field : String) (hidden : Bool) :
    KeyedOnce (fields.map (hide field hidden)) := by
  have hsame : Field.isPrimary ∘ Entity.hide field hidden = Field.isPrimary :=
    funext (isPrimary_hide field hidden)
  unfold KeyedOnce at h ⊢
  rw [List.filter_map, hsame, List.length_map]
  exact h

theorem kept_keyedOnce : Kept (KeyedOnce ·.fields) :=
  kept_of_new (by simp [KeyedOnce]) (fun _ _ => .front) (fun _ _ => .behind)
    fun _ field hidden h => h.hide field hidden

theorem KeyedOnce.eq {g : Field} (h : KeyedOnce fields) (hf : f ∈ fields) (hg : g ∈ fields)
    (hfprimary : f.isPrimary = true) (hgprimary : g.isPrimary = true) : f = g := by
  have hf' : f ∈ fields.filter Field.isPrimary := List.mem_filter.mpr ⟨hf, hfprimary⟩
  have hg' : g ∈ fields.filter Field.isPrimary := List.mem_filter.mpr ⟨hg, hgprimary⟩
  unfold KeyedOnce at h
  match hall : fields.filter Field.isPrimary with
  | [] => simp [hall] at hf'
  | [p] =>
    rw [hall, List.mem_singleton] at hf' hg'
    rw [hf', hg']
  | p :: q :: rest => simp [hall] at h

theorem primary_eq (h : KeyedOnce e.fields) (hf : f ∈ e.fields) (hprimary : f.isPrimary = true) :
    f = e.primary :=
  h.eq hf e.primary_mem.1 hprimary e.primary_mem.2

/-! ## Where it comes from -/

variable {name : String} {given distinct : List Field}

theorem mem_given (h : given.foldlM (appendField name) [] = .ok distinct) (hf : f ∈ distinct) :
    f ∈ given := by
  refine Result.of_foldlM h (P := fun fields => ∀ g ∈ fields, g ∈ given) (by simp) ?_ f hf
  intro g hg fields fields' hmem hstep
  obtain ⟨_, -, -, rfl⟩ | ⟨-, rfl⟩ := appendField_cases hstep
  · exact hmem
  · rw [List.forall_mem_append]
    exact ⟨hmem, by simpa using hg⟩

/-- A field that is not added is taken for one that is there already. -/
theorem exists_standsFor (h : given.foldlM (appendField name) fields = .ok distinct) :
    fields ⊆ distinct ∧ ∀ f ∈ given, ∃ g ∈ distinct, g.StandsFor f := by
  induction given generalizing fields with
  | nil =>
    cases h
    exact ⟨List.Subset.refl _, by simp⟩
  | cons f rest ih =>
    rw [List.foldlM_cons] at h
    obtain ⟨added, hadded, h⟩ := Result.of_bind h
    obtain ⟨hkept, hrest⟩ := ih h
    have hfirst : fields ⊆ added ∧ ∃ g ∈ added, g.StandsFor f := by
      obtain ⟨g, hfound, hsame, rfl⟩ | ⟨-, rfl⟩ := appendField_cases hadded
      · exact ⟨List.Subset.refl _, g, List.mem_of_find?_eq_some hfound, .inr hsame⟩
      · exact ⟨List.subset_append_left _ _, f, by simp, .inl rfl⟩
    obtain ⟨hfields, g, hg, hsame⟩ := hfirst
    exact ⟨fun _ hmem => hkept (hfields hmem),
      List.forall_mem_cons.mpr ⟨⟨g, hkept hg, hsame⟩, hrest⟩⟩

/-- A key that is put in front is not written by callers, so one that they write was declared. -/
theorem primary_fillable_iff {config : EntityConfig} (h : declare name given config = .ok e) :
    e.primary.fillable = true ↔ ∃ f ∈ given, f.isPrimary = true ∧ f.fillable = true := by
  have honce : KeyedOnce e.fields := kept_keyedOnce.declare h
  obtain ⟨hprimary, hkind⟩ := e.primary_mem
  obtain ⟨distinct, keyed, hdistinct, hkeyed, -, hfields⟩ := declare_cases h
  constructor
  · intro hfillable
    refine ⟨e.primary, ?_, hkind, hfillable⟩
    rw [hfields] at hprimary
    obtain ⟨-, hsame⟩ | ⟨-, f, -, hfront, -, hprotected, hfirst⟩ := withPrimary_cases hkeyed
    · rw [hsame] at hprimary
      exact mem_given hdistinct hprimary
    · have hf : f = e.primary := by
        refine primary_eq honce ?_ (by rw [Field.isPrimary, hfirst])
        rw [hfields, hfront]
        exact List.mem_cons_self
      rw [← hf, hprotected] at hfillable
      cases hfillable
  · rintro ⟨f, hf, hfprimary, hfillable⟩
    obtain ⟨g, hg, hstands⟩ := (exists_standsFor hdistinct).2 f hf
    have hgprimary := hstands.isPrimary hfprimary
    have hgmem : g ∈ e.fields := by
      rw [hfields]
      obtain ⟨-, hkept⟩ | ⟨-, _, -, hfront, -⟩ := withPrimary_cases hkeyed
      · rw [hkept]
        exact hg
      · rw [hfront]
        exact List.mem_cons_of_mem _ hg
    rw [← primary_eq honce hgmem hgprimary, hstands.fillable]
    exact hfillable

end EntityMapper.Entity
