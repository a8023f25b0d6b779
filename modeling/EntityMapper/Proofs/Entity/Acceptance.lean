import EntityMapper.Proofs.Entity.Document

/-!
# What is accepted as an entity

Which names, fields and configurations a declaration takes, and the fields of the entity it makes. The
fields are read one after the other, but what is asked of them does not depend on their order: those of
one name agree, and so do the primary ones.
-/

namespace EntityMapper.Entity

variable {e : Entity} {f g : Field} {fields given distinct rest : List Field} {name : String}
  {config : EntityConfig}

/-! ## Fields together -/

/-- The fields may all be given to one entity: they are named by identifiers, and a field is equal to
each before it that has its name, and when both are primary. -/
structure Compatible (fields : List Field) : Prop where
  identifiers : ∀ f ∈ fields, Text.isIdentifier f.name = true
  agree : fields.Pairwise fun f g => f.name = g.name → (f == g) = true
  once : fields.Pairwise fun f g => f.isPrimary = true → g.isPrimary = true → (f == g) = true

/-- Those of the fields that are not there already. -/
def others (fields given : List Field) : List Field := given.filter fun f => !fields.any (· == f)

theorem others_nil : others [] given = given := by simp [others]

theorem others_of_mem (hg : g ∈ fields) (h : (g == f) = true) :
    others fields (f :: rest) = others fields rest := by
  have hthere : fields.any (· == f) = true := List.any_eq_true.mpr ⟨g, hg, h⟩
  simp [others, hthere]

theorem others_of_new (hnew : fields.find? (·.name == f.name) = none) :
    others fields (f :: rest) = f :: others fields rest := by
  have hf : fields.any (· == f) = false := by
    rw [List.any_eq_false]
    rw [List.find?_eq_none] at hnew
    exact fun g hg hsame => hnew g hg (beq_iff_eq.mpr (Field.beq_iff.mp hsame).1)
  simp [others, hf]

theorem others_append : others (fields ++ [f]) given = (others fields given).filter (!· == f) := by
  unfold others
  rw [List.filter_filter]
  apply List.filter_congr
  intro g _
  have hcomm : (g == f) = (f == g) := Bool.eq_iff_iff.mpr ⟨PartialEquivBEq.symm, PartialEquivBEq.symm⟩
  simp [hcomm, Bool.and_comm]

theorem Compatible.new (h : Compatible (fields ++ f :: rest))
    (hname : fields.find? (·.name == f.name) = none) : New fields f := by
  refine ⟨h.identifiers f (by simp), hname, fun hprimary => ?_⟩
  rw [List.find?_eq_none] at hname ⊢
  intro g hg hgprimary
  have hsame := (List.pairwise_append.mp h.once).2.2 g hg f (by simp) hgprimary hprimary
  exact hname g hg (beq_iff_eq.mpr (Field.beq_iff.mp hsame).1)

theorem appendField_of_same (hname : Text.isIdentifier f.name = true)
    (hfound : fields.find? (·.name == f.name) = some g) (hsame : (g == f) = true) :
    appendField name fields f = .ok fields := by
  unfold appendField checkIdentifier
  rw [if_pos hname, hfound]
  exact if_pos hsame

/-- Of fields that may stand together, each is taken that does not stand there already. -/
theorem Compatible.foldlM_appendField (h : Compatible (fields ++ given)) :
    given.foldlM (appendField name) fields = .ok (fields ++ (others fields given).eraseDups) := by
  induction given generalizing fields with
  | nil =>
    rw [others, List.filter_nil, List.eraseDups_nil, List.append_nil]
    rfl
  | cons f rest ih =>
    rw [List.foldlM_cons]
    cases hfound : fields.find? (·.name == f.name) with
    | none =>
      rw [appendField_of_new (h.new hfound), others_of_new hfound, List.eraseDups_cons,
        ← others_append]
      have happend : fields ++ f :: rest = (fields ++ [f]) ++ rest := by simp
      rw [happend] at h
      exact (ih h).trans (by simp)
    | some g =>
      have hg : g ∈ fields := List.mem_of_find?_eq_some hfound
      have hname : g.name = f.name := by simpa using List.find?_some hfound
      have hsame : (g == f) = true :=
        (List.pairwise_append.mp h.agree).2.2 g hg f (by simp) hname
      rw [appendField_of_same (h.identifiers f (by simp)) hfound hsame, others_of_mem hg hsame]
      have hsub : (fields ++ rest).Sublist (fields ++ f :: rest) :=
        (List.sublist_cons_self f rest).append_left fields
      exact ih ⟨fun k hk => h.identifiers k (hsub.subset hk), h.agree.sublist hsub,
        h.once.sublist hsub⟩

/-- Fields that are taken one after the other agree with those that are there before, and with each
other. -/
theorem agree_of_foldlM (hnamed : NamedFields fields)
    (h : given.foldlM (appendField name) fields = .ok distinct) :
    (∀ g ∈ fields, ∀ f ∈ given, g.name = f.name → (g == f) = true)
      ∧ given.Pairwise fun f g => f.name = g.name → (f == g) = true := by
  induction given generalizing fields with
  | nil => simp
  | cons f rest ih =>
    rw [List.foldlM_cons] at h
    obtain ⟨added, hadded, hlater⟩ := Result.of_bind h
    obtain ⟨g, hfound, hsame, hadded⟩ | ⟨hnew, hadded⟩ := appendField_cases hadded
    · obtain ⟨hfields, hrest⟩ := ih hnamed (hadded ▸ hlater)
      have hg : g ∈ fields := List.mem_of_find?_eq_some hfound
      have hname : g.name = f.name := by simpa using List.find?_some hfound
      have hf : ∀ k ∈ rest, f.name = k.name → (f == k) = true := fun k hk hfk =>
        PartialEquivBEq.trans (PartialEquivBEq.symm hsame) (hfields g hg k hk (hname.trans hfk))
      refine ⟨fun k hk => List.forall_mem_cons.mpr ⟨fun hkf => ?_, hfields k hk⟩,
        List.pairwise_cons.mpr ⟨hf, hrest⟩⟩
      rwa [Keyed.eq_of_key_eq hnamed.distinct hk hg (hkf.trans hname.symm)]
    · obtain ⟨hfields, hrest⟩ := ih (hnamed.behind hnew) (hadded ▸ hlater)
      rw [List.forall_mem_append, List.forall_mem_singleton] at hfields
      have hnone := List.find?_eq_none.mp hnew.name
      exact ⟨fun k hk => List.forall_mem_cons.mpr
        ⟨fun hkf => absurd (beq_iff_eq.mpr hkf) (hnone k hk), hfields.1 k hk⟩,
        List.pairwise_cons.mpr ⟨hfields.2, hrest⟩⟩

/-- Fields that are taken one after the other may stand together: each is one of those that are
kept, and of these no two have one name and no two are primary. -/
theorem compatible_of_foldlM (h : given.foldlM (appendField name) [] = .ok distinct) :
    Compatible given := by
  have hnamed : NamedFields distinct :=
    of_distinct h ⟨by simp, by simp⟩ fun _ _ => NamedFields.behind
  have honce : KeyedOnce distinct := of_distinct h (by simp [KeyedOnce]) fun _ _ => KeyedOnce.behind
  have hkept := (exists_standsFor h).2
  have hagree := (agree_of_foldlM ⟨by simp, by simp⟩ h).2
  refine ⟨fun f hf => ?_, hagree, hagree.imp_of_mem fun hf hg hsame hfprimary hgprimary => hsame ?_⟩
  · obtain ⟨g, hg, hstands⟩ := hkept f hf
    rw [← hstands.name]
    exact hnamed.identifiers g hg
  · obtain ⟨f', hf', hstands⟩ := hkept _ hf
    obtain ⟨g', hg', hstands'⟩ := hkept _ hg
    rw [← hstands.name, ← hstands'.name,
      honce.eq hf' hg' (hstands.isPrimary hfprimary) (hstands'.isPrimary hgprimary)]

theorem Compatible.distinct_eq (h : Compatible given) (name : String) :
    given.foldlM (appendField name) [] = .ok given.eraseDups := by
  have hall : given.foldlM (appendField name) [] = .ok ([] ++ (others [] given).eraseDups) :=
    Compatible.foldlM_appendField h
  rwa [others_nil] at hall

theorem any_isPrimary_distinct (h : given.foldlM (appendField name) [] = .ok distinct) :
    distinct.any Field.isPrimary = given.any Field.isPrimary := by
  rw [Bool.eq_iff_iff, List.any_eq_true, List.any_eq_true]
  constructor
  · rintro ⟨f, hf, hprimary⟩
    exact ⟨f, mem_given h hf, hprimary⟩
  · rintro ⟨f, hf, hprimary⟩
    obtain ⟨g, hg, hstands⟩ := (exists_standsFor h).2 f hf
    exact ⟨g, hg, hstands.isPrimary hprimary⟩

/-! ## The key in front -/

/-- The primary field of an entity for which none was declared. -/
def configuredKey (config : EntityConfig) : Field :=
  ⟨defaultPrimary, .primary config.primaryFormat
    (if config.primaryFormat = .custom then config.idHandler else none), false, none, false, false⟩

/-- A primary field may be put in front of the fields. -/
structure Keyable (fields : List Field) (config : EntityConfig) : Prop where
  unclaimed : ∀ f ∈ fields, f.name ≠ defaultPrimary
  handler : config.primaryFormat = .custom → config.idHandler ≠ none

theorem withPrimary_of_any (h : fields.any Field.isPrimary = true) :
    ∃ hkeyed, withPrimary name config fields = .ok ⟨fields, hkeyed⟩ := by
  rw [List.any_eq_true, ← List.find?_isSome] at h
  exact ⟨h, dif_pos h⟩

theorem withPrimary_iff {keyed : KeyedFields} (h : fields.any Field.isPrimary = false) :
    withPrimary name config fields = .ok keyed
      ↔ Keyable fields config ∧ keyed.val = configuredKey config :: fields := by
  have hnone : ¬(fields.find? Field.isPrimary).isSome := by simpa using h
  unfold withPrimary
  rw [dif_neg hnone]
  split
  · rename_i hformat hhandler
    refine ⟨fun h => (by cases h), fun h => absurd hhandler (h.1.handler hformat)⟩
  · rename_i hhandler
    dsimp only
    split
    · rename_i htaken
      obtain ⟨f, hf, hname⟩ := List.any_eq_true.mp htaken
      refine ⟨fun h => (by cases h), fun h => absurd (eq_of_beq hname) (h.1.unclaimed f hf)⟩
    · rename_i hfree
      rw [Except.ok.injEq, Subtype.ext_iff]
      have hkeyable : Keyable fields config := ⟨by simpa using hfree, hhandler⟩
      exact ⟨fun h => ⟨hkeyable, h.symm⟩, fun h => h.2.symm⟩

/-! ## Declarations -/

/-- What a declaration asks of the name, the fields and the configuration. -/
structure Declarable (name : String) (given : List Field) (config : EntityConfig) : Prop
    extends Compatible given where
  identifier : Text.isIdentifier name = true
  handler : ∀ f ∈ given, f.kind ≠ .primary .custom none
  keyable : given.any Field.isPrimary = false → Keyable given config

/-- The fields in order, none repeated, behind a primary one. -/
def keyedFields (given : List Field) (config : EntityConfig) : List Field :=
  if given.any Field.isPrimary then given.eraseDups else configuredKey config :: given.eraseDups

theorem withPrimary_distinct {keyed : KeyedFields}
    (h : given.foldlM (appendField name) [] = .ok given.eraseDups) :
    withPrimary name config given.eraseDups = .ok keyed
      ↔ (given.any Field.isPrimary = false → Keyable given config)
        ∧ keyed.val = keyedFields given config := by
  have hany := any_isPrimary_distinct h
  unfold keyedFields
  cases hgiven : given.any Field.isPrimary with
  | true =>
    rw [hgiven] at hany
    obtain ⟨hkeyed, hsame⟩ := withPrimary_of_any hany
    rw [hsame, Except.ok.injEq, Subtype.ext_iff]
    simp [eq_comm]
  | false =>
    rw [hgiven] at hany
    have hkeyable : Keyable given.eraseDups config ↔ Keyable given config := by
      refine ⟨fun hk => ⟨fun f hf => ?_, hk.handler⟩,
        fun hk => ⟨fun f hf => hk.unclaimed f (mem_given h hf), hk.handler⟩⟩
      obtain ⟨g, hg, hstands⟩ := (exists_standsFor h).2 f hf
      rw [← hstands.name]
      exact hk.unclaimed g hg
    rw [withPrimary_iff hany, hkeyable]
    simp

theorem primaryFormat_eq_iff :
    e.primaryFormat = (.custom, none) ↔ e.primary.kind = .primary .custom none := by
  have hprimary := e.primary_mem.2
  unfold Field.isPrimary at hprimary
  unfold primaryFormat
  split at hprimary
  · rename_i format handler hkind
    simp [hkind]
  · cases hprimary

/-- The primary field of the entity has a handler as soon as all that were declared have one. -/
theorem handler_iff (h : given.foldlM (appendField name) [] = .ok given.eraseDups)
    (hkeyable : given.any Field.isPrimary = false → Keyable given config)
    (hfields : e.fields = keyedFields given config) :
    e.primaryFormat ≠ (.custom, none) ↔ ∀ f ∈ given, f.kind ≠ .primary .custom none := by
  rw [ne_eq, primaryFormat_eq_iff]
  constructor
  · intro hhandler f hf hkind
    have hfprimary : f.isPrimary = true := by rw [Field.isPrimary, hkind]
    obtain ⟨g, hg, hstands⟩ := (exists_standsFor h).2 f hf
    have hall : e.fields = given.eraseDups := by
      rw [hfields, keyedFields, if_pos (List.any_eq_true.mpr ⟨f, hf, hfprimary⟩)]
    have honce : KeyedOnce e.fields := by
      rw [hall]
      exact of_distinct h (by simp [KeyedOnce]) fun _ _ => KeyedOnce.behind
    apply hhandler
    rw [← primary_eq honce (by rw [hall]; exact hg) (hstands.isPrimary hfprimary),
      hstands.kind (by rw [Field.keyFormat, hkind]; rfl), hkind]
  · intro hhandler hkind
    have hmem := e.primary_mem.1
    rw [hfields, keyedFields] at hmem
    split at hmem
    · exact hhandler _ (mem_given h hmem) hkind
    · rename_i hnone
      rcases List.mem_cons.mp hmem with hfront | hmem
      · rw [hfront, configuredKey, FieldKind.primary.injEq] at hkind
        obtain ⟨hformat, hnohandler⟩ := hkind
        rw [if_pos hformat] at hnohandler
        exact (hkeyable (Bool.eq_false_iff.mpr hnone)).handler hformat hnohandler
      · exact hhandler _ (mem_given h hmem) hkind

theorem declare_eq_iff : declare name given config = .ok e ↔
    Declarable name given config ∧ e.name = name ∧ e.config = config
      ∧ e.fields = keyedFields given config := by
  rw [declare_iff]
  constructor
  · rintro ⟨hname, ⟨distinct, hdistinct, hkeyed⟩, rfl, rfl, hhandler⟩
    have hcompatible := compatible_of_foldlM hdistinct
    have hall := hcompatible.distinct_eq e.name
    obtain rfl : distinct = given.eraseDups := Except.ok.inj (hdistinct.symm.trans hall)
    obtain ⟨hkeyable, hfields⟩ := (withPrimary_distinct hall).mp hkeyed
    exact ⟨⟨hcompatible, hname, (handler_iff hall hkeyable hfields).mp hhandler, hkeyable⟩,
      rfl, rfl, hfields⟩
  · rintro ⟨h, rfl, rfl, hfields⟩
    have hall := h.distinct_eq e.name
    exact ⟨h.identifier, ⟨_, hall, (withPrimary_distinct hall).mpr ⟨h.keyable, hfields⟩⟩, rfl, rfl,
      (handler_iff hall h.keyable hfields).mpr h.handler⟩

theorem isSome_keyedFields (h : Compatible given) (config : EntityConfig) :
    ((keyedFields given config).find? Field.isPrimary).isSome := by
  unfold keyedFields
  split
  · rename_i hany
    rw [← any_isPrimary_distinct (h.distinct_eq "")] at hany
    simpa using hany
  · simp [configuredKey, Field.isPrimary]

/-- Exactly the declarable entities are declared, and each with the fields it was given. -/
theorem declare_accepts (name : String) (given : List Field) (config : EntityConfig) :
    ((∃ e, declare name given config = .ok e) ↔ Declarable name given config)
      ∧ ∀ e, declare name given config = .ok e ↔ Declarable name given config
        ∧ e.name = name ∧ e.config = config ∧ e.fields = keyedFields given config := by
  refine ⟨⟨?_, fun h => ?_⟩, fun e => declare_eq_iff⟩
  · rintro ⟨e, h⟩
    exact (declare_eq_iff.mp h).1
  · let e : Entity := ⟨name, keyedFields given config, config, isSome_keyedFields h.toCompatible config⟩
    exact ⟨e, declare_eq_iff.mpr ⟨h, rfl, rfl, rfl⟩⟩

example : (declare "people" [.text "name", .number "age", .text "name"] {}).map
    (·.fields.map (·.name)) = .ok ["id", "name", "age"] := by rfl

end EntityMapper.Entity
