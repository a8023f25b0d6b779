import EntityMapper.Filter.Basic
import EntityMapper.Proofs.Dict

/-!
# The predicates of a filter

Putting a predicate into a filter leaves all others in it, except the one whose field and operator it
has: there can only be one of these.
-/

namespace EntityMapper.Filter

def operand? (f : Filter) (field operator : String) : Option Json :=
  (Dict.get? f field).bind (Dict.get? · operator)

variable {f : Filter} {field operator field' operator' : String} {value v : Json}

theorem operand?_put_self :
    (f.put field operator value).operand? field operator = some value := by
  simp [operand?, put]

theorem operand?_put_of_ne (h : (field', operator') ≠ (field, operator)) :
    (f.put field operator value).operand? field' operator' = f.operand? field' operator' := by
  unfold operand? put
  by_cases hfield : field' = field
  · subst hfield
    have hoperator : operator' ≠ operator := fun he => h (by rw [he])
    rw [Dict.get?_insert_self, Option.bind_some, Dict.get?_insert_of_ne _ _ hoperator]
    cases Dict.get? f field' <;> rfl
  · rw [Dict.get?_insert_of_ne _ _ hfield]

theorem mem_predicates {p : String × String × Json} :
    p ∈ f.predicates ↔ ∃ operators, (p.1, operators) ∈ f ∧ p.2 ∈ operators := by
  obtain ⟨field, operator, value⟩ := p
  simp only [predicates, List.mem_flatMap, List.mem_map, Prod.exists, Prod.mk.injEq]
  constructor
  · rintro ⟨_, operators, hentry, _, _, hop, rfl, rfl, rfl⟩
    exact ⟨operators, hentry, hop⟩
  · rintro ⟨operators, hentry, hop⟩
    exact ⟨field, operators, hentry, operator, value, hop, rfl, rfl, rfl⟩

theorem predicates_ne_nil (h : f ≠ []) (hoperators : ∀ entry ∈ f, entry.2 ≠ []) :
    f.predicates ≠ [] := by
  obtain ⟨entry, rest, rfl⟩ := List.exists_cons_of_ne_nil h
  have hentry : entry.2 ≠ [] := hoperators entry List.mem_cons_self
  simp [predicates, hentry]

theorem mem_predicates_of_operand? (h : f.operand? field operator = some v) :
    (field, operator, v) ∈ f.predicates := by
  obtain ⟨operators, hfield, hoperator⟩ := Option.bind_eq_some_iff.mp h
  exact mem_predicates.mpr ⟨operators, Dict.mem_of_get? hfield, Dict.mem_of_get? hoperator⟩

/-- A predicate stays when another is put in, unless it has the same field and operator. -/
theorem mem_predicates_put {p : String × String × Json} (hp : p ∈ f.predicates)
    (h : (p.1, p.2.1) ≠ (field, operator)) : p ∈ (f.put field operator value).predicates := by
  obtain ⟨operators, hentry, hop⟩ := mem_predicates.mp hp
  rw [mem_predicates]
  unfold put
  rcases Dict.mem_insert_or field
    (Dict.insert ((Dict.get? f field).getD []) operator value) hentry with hkept | ⟨hfield, hfound⟩
  · exact ⟨operators, hkept, hop⟩
  · -- the entry was taken up into the new one
    rw [hfound, Option.getD_some, hfield]
    refine ⟨_, Dict.mem_of_get? (Dict.get?_insert_self _ _ _), ?_⟩
    rcases Dict.mem_insert_or operator value hop with hkept | ⟨hoperator, -⟩
    · exact hkept
    · exact absurd (by rw [hfield, hoperator]) h

theorem mem_of_mem_predicates_put {p : String × String × Json}
    (h : p ∈ (f.put field operator value).predicates) :
    p = (field, operator, value) ∨ p ∈ f.predicates := by
  obtain ⟨operators, hentry, hop⟩ := mem_predicates.mp h
  rcases Dict.mem_of_mem_insert hentry with hnew | hold
  · cases hnew
    rcases Dict.mem_of_mem_insert hop with hnew | hold
    · exact .inl (Prod.ext rfl hnew)
    · cases hfound : Dict.get? f p.1 with
      | none => simp [hfound] at hold
      | some found =>
        rw [hfound, Option.getD_some] at hold
        exact .inr (mem_predicates.mpr ⟨found, Dict.mem_of_get? hfound, hold⟩)
  · exact .inr (mem_predicates.mpr ⟨operators, hold, hop⟩)

/-- A filter keeps all its predicates when one is put in, exactly when it has no other with the same
field and operator. -/
theorem put_keeps_iff :
    (∀ field' operator' v, f.operand? field' operator' = some v →
        (f.put field operator value).operand? field' operator' = some v)
      ↔ ∀ v, f.operand? field operator = some v → v = value := by
  constructor
  · intro h v hv
    have hput := h field operator v hv
    rw [operand?_put_self] at hput
    exact (Option.some.inj hput).symm
  · intro h field' operator' v hv
    by_cases hsame : (field', operator') = (field, operator)
    · cases hsame
      rw [operand?_put_self, h v hv]
    · rwa [operand?_put_of_ne hsame]

end EntityMapper.Filter
