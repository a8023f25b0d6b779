import EntityMapper.Proofs.Entity.Stored

/-!
# Equal fields and entities

Numbers are compared by value, so fields that are equal need not be one and the same: their limits or
default values may be zeros of different sign. A field with an undefined limit is not even equal to
itself. Equality of fields is symmetric and transitive all the same, and keys are compared exactly.
-/

namespace EntityMapper

/-- Values equal to a third are equal, and the third may be one of them. -/
theorem equivBEq_of_euclidean {α : Type} [BEq α] [ReflBEq α]
    (h : ∀ {a b c : α}, (a == b) = true → (a == c) = true → (b == c) = true) : EquivBEq α where
  symm hab := h hab BEq.rfl
  trans hab hbc := h (h hab BEq.rfl) hbc

instance partialEquivBEq_option {α : Type} [BEq α] [PartialEquivBEq α] :
    PartialEquivBEq (Option α) where
  symm {x y} hxy := by
    cases x <;> cases y <;> try contradiction
    · rfl
    · rw [Option.some_beq_some] at hxy ⊢
      exact PartialEquivBEq.symm hxy
  trans {x y z} hxy hyz := by
    cases x <;> cases y <;> cases z <;> try contradiction
    · rfl
    · rw [Option.some_beq_some] at hxy hyz ⊢
      exact PartialEquivBEq.trans hxy hyz

instance partialEquivBEq_list {α : Type} [BEq α] [PartialEquivBEq α] : PartialEquivBEq (List α) where
  symm {xs ys} h := by
    induction xs generalizing ys with
    | nil => cases ys <;> trivial
    | cons x xs ih =>
      cases ys with
      | nil => cases h
      | cons y ys =>
        rw [List.cons_beq_cons, Bool.and_eq_true] at h ⊢
        exact ⟨PartialEquivBEq.symm h.1, ih h.2⟩
  trans {xs ys zs} hxy hyz := by
    induction xs generalizing ys zs with
    | nil => cases ys <;> trivial
    | cons x xs ih =>
      cases ys <;> cases zs <;> try trivial
      rw [List.cons_beq_cons, Bool.and_eq_true] at hxy hyz ⊢
      exact ⟨PartialEquivBEq.trans hxy.1 hyz.1, ih hxy.2 hyz.2⟩

theorem list_beq_self_iff {α : Type} [BEq α] {xs : List α} :
    (xs == xs) = true ↔ ∀ x ∈ xs, (x == x) = true := by
  induction xs with
  | nil => simp
  | cons x xs ih => rw [List.cons_beq_cons, Bool.and_eq_true, ih, List.forall_mem_cons]

instance : ReflBEq Double := ⟨fun {x} => beq_self_eq_true x.scaled⟩

instance : EquivBEq Double :=
  equivBEq_of_euclidean fun {x y z} hxy hxz => by
    change (x.scaled == y.scaled) = true at hxy
    change (y.scaled == z.scaled) = true
    rw [← eq_of_beq hxy]
    exact hxz

namespace Json

mutual
theorem same_self : ∀ j : Json, same j j = true
  | .null => rfl
  | .bool b => beq_self_eq_true b
  | .int n => beq_self_eq_true n
  | .float x => beq_self_eq_true x
  | .str s => beq_self_eq_true s
  | .arr items => sameItems_self items
  | .obj members => sameMembers_self members

theorem sameItems_self : ∀ items : List Json, sameItems items items = true
  | [] => rfl
  | j :: rest => Bool.and_eq_true_iff.mpr ⟨same_self j, sameItems_self rest⟩

theorem sameMembers_self : ∀ members : List (String × Json), sameMembers members members = true
  | [] => rfl
  | (k, j) :: rest => by
    rw [sameMembers, same_self j, sameMembers_self rest, beq_self_eq_true]
    rfl
end

instance : ReflBEq Json := ⟨fun {j} => same_self j⟩

mutual
theorem same_euclidean (i j k : Json) : same i j = true → same i k = true → same j k = true := by
  cases i with
  | float x =>
    cases j <;> cases k <;> simp only [same, Bool.false_eq_true, false_imp_iff, imp_true_iff]
    exact fun hj hk => PartialEquivBEq.trans (PartialEquivBEq.symm hj) hk
  | arr items =>
    cases j <;> cases k <;> simp only [same, Bool.false_eq_true, false_imp_iff, imp_true_iff]
    exact sameItems_euclidean items _ _
  | obj members =>
    cases j <;> cases k <;> simp only [same, Bool.false_eq_true, false_imp_iff, imp_true_iff]
    exact sameMembers_euclidean members _ _
  | _ => cases j <;> cases k <;> simp_all [same]

theorem sameItems_euclidean (xs ys zs : List Json) :
    sameItems xs ys = true → sameItems xs zs = true → sameItems ys zs = true := by
  cases xs with
  | nil => cases ys <;> cases zs <;> simp [sameItems]
  | cons x xs =>
    cases ys <;> cases zs <;> simp only [sameItems, Bool.and_eq_true, Bool.false_eq_true,
      false_imp_iff, imp_true_iff]
    rintro ⟨hy, hys⟩ ⟨hz, hzs⟩
    exact ⟨same_euclidean x _ _ hy hz, sameItems_euclidean xs _ _ hys hzs⟩

theorem sameMembers_euclidean (xs ys zs : List (String × Json)) :
    sameMembers xs ys = true → sameMembers xs zs = true → sameMembers ys zs = true := by
  match xs with
  | [] => cases ys <;> cases zs <;> simp [sameMembers]
  | (key, x) :: xs =>
    cases ys <;> cases zs <;> simp only [sameMembers, Bool.and_eq_true, beq_iff_eq,
      Bool.false_eq_true, false_imp_iff, imp_true_iff]
    rintro ⟨⟨rfl, hy⟩, hys⟩ ⟨⟨hkey, hz⟩, hzs⟩
    exact ⟨⟨hkey, same_euclidean x _ _ hy hz⟩, sameMembers_euclidean xs _ _ hys hzs⟩
end

instance : EquivBEq Json := equivBEq_of_euclidean fun {i j k} => same_euclidean i j k

end Json

/-! ## Limits -/

namespace Double.Extended

theorem beq_self_iff {x : Extended} : (x == x) = true ↔ x ≠ .undefined := by
  cases x with
  | finite x => exact iff_of_true (beq_self_eq_true x) nofun
  | infinite negative => exact iff_of_true (beq_self_eq_true negative) nofun
  | undefined => exact iff_of_false nofun (not_not_intro rfl)

/-- Equal limits are one and the same, or finite and of one value. -/
theorem eq_or_finite {x y : Extended} (h : (x == y) = true) :
    x = y ∨ ∃ a b, x = .finite a ∧ y = .finite b ∧ (a == b) = true := by
  cases x <;> cases y <;> try cases h
  case finite.finite a b => exact .inr ⟨a, b, rfl, rfl, h⟩
  case infinite.infinite negative negative' =>
    rw [eq_of_beq (a := negative) h]
    exact .inl rfl

instance : PartialEquivBEq Extended where
  symm h := by
    obtain rfl | ⟨a, b, rfl, rfl, hab⟩ := eq_or_finite h
    · exact h
    · exact PartialEquivBEq.symm (a := a) hab
  trans hxy hyz := by
    obtain rfl | ⟨a, b, rfl, rfl, hab⟩ := eq_or_finite hxy
    · exact hyz
    obtain rfl | ⟨_, c, hb, rfl, hbc⟩ := eq_or_finite hyz
    · exact hxy
    · cases hb
      exact PartialEquivBEq.trans (a := a) hab hbc

end Double.Extended

/-- The limit is no undefined number. -/
def DefinedLimit (limit : Option Double.Extended) : Prop := ∀ x ∈ limit, x ≠ .undefined

theorem definedLimit_iff {limit : Option Double.Extended} :
    (limit == limit) = true ↔ DefinedLimit limit := by
  cases limit with
  | none => simp [DefinedLimit]
  | some x => simp [DefinedLimit, Double.Extended.beq_self_iff]

/-! ## Kinds -/

def FieldKind.DefinedLimits : FieldKind → Prop
  | .number minimum maximum => DefinedLimit minimum ∧ DefinedLimit maximum
  | _ => True

theorem FieldKind.beq_self_iff {kind : FieldKind} : (kind == kind) = true ↔ kind.DefinedLimits := by
  cases kind with
  | text most least pattern =>
    change (most == most && (least == least && pattern == pattern)) = true ↔ _
    simp [DefinedLimits]
  | number minimum maximum =>
    change (minimum == minimum && maximum == maximum) = true ↔ _
    simp [DefinedLimits, definedLimit_iff]
  | primary format handler =>
    change (format == format && handler == handler) = true ↔ _
    simp [DefinedLimits]
  | relation key => exact iff_of_true (beq_self_eq_true key) trivial
  | _ => exact iff_of_true rfl trivial

/-- Only the limits of numbers are compared by value. -/
theorem FieldKind.eq_or_numbers {kind kind' : FieldKind} (h : (kind == kind') = true) :
    kind = kind' ∨ ∃ least least' most most', kind = .number least most
      ∧ kind' = .number least' most' ∧ (least == least') = true ∧ (most == most') = true := by
  cases kind <;> cases kind' <;> try cases h
  case text.text =>
    obtain ⟨hmost, hrest⟩ := Bool.and_eq_true_iff.mp h
    obtain ⟨hleast, hpattern⟩ := Bool.and_eq_true_iff.mp hrest
    rw [eq_of_beq hmost, eq_of_beq hleast, eq_of_beq hpattern]
    exact .inl rfl
  case number.number => exact .inr ⟨_, _, _, _, rfl, rfl, Bool.and_eq_true_iff.mp h⟩
  case primary.primary =>
    obtain ⟨hformat, hhandler⟩ := Bool.and_eq_true_iff.mp h
    rw [eq_of_beq hformat, eq_of_beq hhandler]
    exact .inl rfl
  case relation.relation key key' =>
    change (key == key') = true at h
    rw [eq_of_beq h]
    exact .inl rfl
  all_goals exact .inl rfl

theorem FieldKind.beq_of_numbers {least least' most most' : Option Double.Extended}
    (hleast : (least == least') = true) (hmost : (most == most') = true) :
    (FieldKind.number least most == .number least' most') = true :=
  Bool.and_eq_true_iff.mpr ⟨hleast, hmost⟩

instance : PartialEquivBEq FieldKind where
  symm h := by
    obtain rfl | ⟨least, least', most, most', rfl, rfl, hleast, hmost⟩ := FieldKind.eq_or_numbers h
    · exact h
    · exact FieldKind.beq_of_numbers (PartialEquivBEq.symm hleast) (PartialEquivBEq.symm hmost)
  trans hab hbc := by
    obtain rfl | ⟨least, least', most, most', rfl, rfl, hleast, hmost⟩ := FieldKind.eq_or_numbers hab
    · exact hbc
    obtain rfl | ⟨_, _, _, _, hkind, rfl, hleast', hmost'⟩ := FieldKind.eq_or_numbers hbc
    · exact hab
    · cases hkind
      exact FieldKind.beq_of_numbers (PartialEquivBEq.trans hleast hleast')
        (PartialEquivBEq.trans hmost hmost')

/-! ## Fields and entities -/

theorem Field.beq_iff {f g : Field} :
    (f == g) = true ↔ f.name = g.name ∧ (f.kind == g.kind) = true ∧ f.required = g.required
      ∧ (f.defaultValue == g.defaultValue) = true ∧ f.hidden = g.hidden
      ∧ f.fillable = g.fillable := by
  change (f.name == g.name && (f.kind == g.kind && (f.required == g.required
    && (f.defaultValue == g.defaultValue && (f.hidden == g.hidden && f.fillable == g.fillable)))))
      = true ↔ _
  simp

theorem Field.beq_self_iff {f : Field} : (f == f) = true ↔ f.kind.DefinedLimits := by
  simp [Field.beq_iff, FieldKind.beq_self_iff]

instance : PartialEquivBEq Field where
  symm h := by
    rw [Field.beq_iff] at h ⊢
    obtain ⟨hname, hkind, hrequired, hdefault, hhidden, hfillable⟩ := h
    exact ⟨hname.symm, PartialEquivBEq.symm hkind, hrequired.symm, PartialEquivBEq.symm hdefault,
      hhidden.symm, hfillable.symm⟩
  trans hfg hgk := by
    rw [Field.beq_iff] at hfg hgk ⊢
    obtain ⟨hname, hkind, hrequired, hdefault, hhidden, hfillable⟩ := hfg
    obtain ⟨hname', hkind', hrequired', hdefault', hhidden', hfillable'⟩ := hgk
    exact ⟨hname.trans hname', PartialEquivBEq.trans hkind hkind', hrequired.trans hrequired',
      PartialEquivBEq.trans hdefault hdefault', hhidden.trans hhidden', hfillable.trans hfillable'⟩

/-- The field is there for the other one: it is that field, or one equal to it. -/
def Field.StandsFor (g f : Field) : Prop := g = f ∨ (g == f) = true

namespace Field.StandsFor

variable {f g : Field}

theorem name (h : g.StandsFor f) : g.name = f.name := by
  obtain rfl | h := h
  · rfl
  · exact (beq_iff.mp h).1

theorem fillable (h : g.StandsFor f) : g.fillable = f.fillable := by
  obtain rfl | h := h
  · rfl
  · exact (beq_iff.mp h).2.2.2.2.2

theorem kind (h : g.StandsFor f) (hf : f.keyFormat.isSome) : g.kind = f.kind := by
  obtain rfl | h := h
  · rfl
  obtain hsame | ⟨_, _, _, _, -, hnumber, -⟩ := FieldKind.eq_or_numbers (beq_iff.mp h).2.1
  · exact hsame
  · rw [keyFormat, hnumber] at hf
    cases hf

theorem isPrimary (h : g.StandsFor f) (hf : f.isPrimary = true) : g.isPrimary = true := by
  have hkind : g.kind = f.kind := by
    refine h.kind ?_
    unfold Field.isPrimary at hf
    unfold keyFormat
    split at hf
    · rename_i hprimary
      rw [hprimary]
      rfl
    · cases hf
  rwa [Field.isPrimary, hkind]

end Field.StandsFor

theorem Entity.beq_iff {e e' : Entity} :
    (e == e') = true ↔ e.name = e'.name ∧ (e.fields == e'.fields) = true ∧ e.config = e'.config := by
  change (e.name == e'.name && e.fields == e'.fields && e.config == e'.config) = true ↔ _
  simp [and_assoc]

instance : PartialEquivBEq Entity where
  symm h := by
    rw [Entity.beq_iff] at h ⊢
    exact ⟨h.1.symm, PartialEquivBEq.symm h.2.1, h.2.2.symm⟩
  trans hab hbc := by
    rw [Entity.beq_iff] at hab hbc ⊢
    exact ⟨hab.1.trans hbc.1, PartialEquivBEq.trans hab.2.1 hbc.2.1, hab.2.2.trans hbc.2.2⟩

/-- No limit of a field is undefined. -/
def Entity.DefinedLimits (e : Entity) : Prop := ∀ f ∈ e.fields, f.kind.DefinedLimits

theorem Entity.beq_self_iff {e : Entity} : (e == e) = true ↔ e.DefinedLimits := by
  simp [Entity.beq_iff, list_beq_self_iff, Field.beq_self_iff, DefinedLimits]

end EntityMapper
