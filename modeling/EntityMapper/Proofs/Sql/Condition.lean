import EntityMapper.Proofs.Entity.Named
import EntityMapper.Proofs.Entity.Stored
import EntityMapper.Proofs.Sql.Phrase
import EntityMapper.Proofs.Text.Split

/-!
# Conditions and predicates

The conditions of a filter are those of its predicates, one for each and in their order, on the
columns that the fields resolve to.
-/

namespace EntityMapper.Sql.Condition

/-- The condition is that of a predicate: of a field, an operator and an operand. -/
def For (d : Dialect) (s : Scope) (p : String × String × Json) (c : Condition) : Prop :=
  ∃ col f, s.resolve p.1 = .ok (col, f) ∧ ofOperator d col f p.2.1 p.2.2 = .ok c

variable {d : Dialect} {s : Scope} {filter : Filter} {cs : List Condition} {col : Column} {f : Field}

theorem ofEntry_predicates {entry : String × Dict Json} (h : ofEntry d s entry = .ok cs) :
    List.Forall₂ (For d s) (entry.2.map fun (op, value) => (entry.1, op, value)) cs := by
  unfold ofEntry at h
  split at h
  · cases h
  · rename_i col f hresolve
    rw [List.forall₂_map_left_iff]
    exact (Result.of_mapM h).imp fun _ _ hp => ⟨col, f, hresolve, hp⟩

theorem ofFilter_predicates (h : ofFilter d s filter = .ok cs) :
    List.Forall₂ (For d s) filter.predicates cs := by
  unfold ofFilter at h
  obtain ⟨css, hcss, hcs⟩ := Result.of_bind h
  cases hcs
  have hentries := Result.of_mapM hcss
  clear h hcss
  unfold Filter.predicates
  induction hentries with
  | nil => exact .nil
  | cons hentry _ ih =>
    rw [List.flatMap_cons, List.flatten_cons]
    exact List.rel_append (ofEntry_predicates hentry) ih

/-! ## What operators become -/

theorem operand_ok {value : Json} {o : Operand} (h : operand d f value = .ok o) :
    ∃ w, d.encode f value = .ok w ∧ o = ⟨w, some f⟩ := by
  unfold operand at h
  split at h
  · rename_i w hw
    cases h
    exact ⟨w, hw, rfl⟩
  · cases h

theorem comparison_ok {op : Comparison} {value : Json} {c : Condition}
    (h : comparison d col f op value = .ok c) :
    ∃ o, operand d f value = .ok o ∧ c = .compare col op o := by
  obtain ⟨o, ho, h⟩ := Result.of_bind h
  cases h
  exact ⟨o, ho, rfl⟩

theorem membership_ok {negated : Bool} {value : Json} {c : Condition}
    (h : membership d col f negated value = .ok c) :
    c = .constant negated ∧ value.arr?.getD [] = []
      ∨ ∃ os, List.Forall₂ (fun v o => operand d f v = .ok o) (value.arr?.getD []) os
        ∧ value.arr?.getD [] ≠ [] ∧ c = .member col negated os := by
  unfold membership at h
  split at h
  · rename_i hnil
    cases h
    exact .inl ⟨rfl, hnil⟩
  · rename_i hne
    obtain ⟨os, hos, h⟩ := Result.of_bind h
    cases h
    exact .inr ⟨os, Result.of_mapM hos, hne, rfl⟩

theorem between_ok {value : Json} {c : Condition}
    (h : ofOperator d col f "$between" value = .ok c) :
    ∃ v w low high, value = .arr [v, w] ∧ operand d f v = .ok low ∧ operand d f w = .ok high
      ∧ c = .between col low high := by
  simp only [ofOperator] at h
  split at h
  · obtain ⟨low, hlow, h⟩ := Result.of_bind h
    obtain ⟨high, hhigh, h⟩ := Result.of_bind h
    cases h
    exact ⟨_, _, low, high, rfl, hlow, hhigh, rfl⟩
  · cases h

theorem field_of_operand {value : Json} {o : Operand} (h : operand d f value = .ok o) :
    o.field = some f := by
  obtain ⟨w, -, rfl⟩ := operand_ok h
  rfl

/-- A condition is on the column it was made for, if it is on any, and its operands are typed for the
field, if they are typed. -/
theorem parts_of_ofOperator {op : String} {value : Json} {c : Condition}
    (h : ofOperator d col f op value = .ok c) :
    (∀ other, c.column? = some other → other = col)
      ∧ ∀ o ∈ c.operands, o.field = some f ∨ o.field = none := by
  unfold ofOperator at h
  split at h
  case h_2 =>
    obtain ⟨o, ho, h⟩ := Result.of_bind h
    cases h
    simp [column?, operands, field_of_operand ho]
  case h_7 | h_8 | h_12 =>
    cases h
    simp [column?, operands]
  case h_9 | h_10 =>
    rcases membership_ok h with ⟨rfl, -⟩ | ⟨os, hos, -, rfl⟩
    · simp [column?, operands]
    · refine ⟨by simp [column?], fun o ho => ?_⟩
      obtain ⟨v, -, hv⟩ := Result.exists_of_mem_right hos ho
      exact .inl (field_of_operand hv)
  case h_11 =>
    obtain ⟨_, _, low, high, -, hlow, hhigh, rfl⟩ := between_ok h
    simp [column?, operands, field_of_operand hlow, field_of_operand hhigh]
  case h_13 => cases h
  all_goals
    obtain ⟨o, ho, rfl⟩ := comparison_ok h
    simp [column?, operands, field_of_operand ho]

end EntityMapper.Sql.Condition

namespace EntityMapper.Sql

variable {d : Dialect} {s : Scope} {f : Field}

theorem Scope.storedField_of_mem {e : Entity} (hnamed : Entity.NamedFields e.fields)
    (hf : f ∈ e.storedFields) : storedField e f.name = .ok f := by
  obtain ⟨hmem, hstored⟩ := List.mem_filter.mp hf
  unfold storedField Entity.storedField?
  rw [hnamed.field?_eq hmem, Option.filter_some, if_pos hstored]

/-- A stored field of the main table is found by its name. -/
theorem Scope.resolve_of_mem (hnamed : Entity.NamedFields s.entity.fields)
    (hf : f ∈ s.entity.storedFields) : s.resolve f.name = .ok (s.column f.name, f) := by
  unfold resolve
  rw [Text.splitDot_of_isIdentifier (hnamed.identifiers f (List.mem_filter.mp hf).1)]
  change (storedField s.entity f.name >>= _) = _
  rw [storedField_of_mem hnamed hf]
  rfl

theorem Condition.ofFilter_put_nil {key op : String} {value : Json} {c : Column} {cond : Condition}
    (hresolve : s.resolve key = .ok (c, f)) (hop : ofOperator d c f op value = .ok cond) :
    ofFilter d s (Filter.put [] key op value) = .ok [cond] := by
  have hentry : ofEntry d s (key, [(op, value)]) = .ok [cond] := by
    unfold ofEntry
    rw [hresolve]
    change (ofOperator d c f op value >>= _) = _
    rw [hop]
    rfl
  change (ofEntry d s (key, [(op, value)]) >>= _) >>= _ = _
  rw [hentry]
  rfl

end EntityMapper.Sql
