import EntityMapper.Filter.Validator
import EntityMapper.Proofs.Filter.Predicates
import EntityMapper.Proofs.Result
import EntityMapper.Proofs.Text.Split

/-!
# Converted filters

In a filter that a validator has converted, each predicate has an operator of the validator, which
accepts its operand. A subject is accepted when its values satisfy the predicates one by one.
-/

namespace EntityMapper.Validator

variable {v : Validator} {input : FilterInput} {f : Filter}

/-- The operator of a predicate is known and accepts its operand. -/
def Admits (v : Validator) (entry : String × Json) : Prop :=
  ∃ op, v.operator? entry.1 = some op ∧ op.accepts entry.2 = true

theorem admits_of_checkOperand {field : String} {entry : String × Json} {u : Unit}
    (h : v.checkOperand field entry = .ok u) : v.Admits entry := by
  unfold checkOperand at h
  split at h
  · cases h
  · rename_i op hop
    split at h
    · rename_i haccepts
      exact ⟨op, hop, haccepts⟩
    · cases h

theorem admits_equality {value : Json} (h : v.equality.accepts value = true) :
    v.Admits ("$eq", value) := ⟨v.equality, (Option.some_get v.hasEq).symm, h⟩

theorem admits_of_forM {field : String} {operators : Dict Json} {u : Unit}
    (h : operators.forM (v.checkOperand field) = .ok u) : ∀ entry ∈ operators, v.Admits entry := by
  induction operators with
  | nil => simp
  | cons first rest ih =>
    change (v.checkOperand field first >>= fun _ => rest.forM (v.checkOperand field)) = _ at h
    obtain ⟨_, hfirst, hrest⟩ := Result.of_bind h
    intro entry hentry
    rcases List.mem_cons.mp hentry with rfl | hentry
    · exact admits_of_checkOperand hfirst
    · exact ih hrest entry hentry

theorem admits_of_convertValue {field : String} {value : Json} {operators : Dict Json}
    (h : v.convertValue field value = .ok operators) : ∀ entry ∈ operators, v.Admits entry := by
  unfold convertValue at h
  split at h
  · cases h
  · cases h
  · obtain ⟨_, hall, h⟩ := Result.of_bind h
    cases h
    exact admits_of_forM hall
  · split at h
    · rename_i haccepts
      cases h
      simpa using admits_equality haccepts
    · cases h

/-- Every predicate of a converted filter is admitted. -/
theorem admits_of_convert (h : v.convert input = .ok f) : ∀ p ∈ f.predicates, v.Admits p.2 := by
  intro p hp
  obtain ⟨operators, hentry, hop⟩ := Filter.mem_predicates.mp hp
  clear hp
  induction input generalizing f with
  | nil =>
    cases h
    cases hentry
  | cons first rest ih =>
    obtain ⟨field, value⟩ := first
    unfold convert at h
    obtain ⟨_, -, h⟩ := Result.of_bind h
    split at h
    · exact ih h hentry
    · obtain ⟨converted, hvalue, h⟩ := Result.of_bind h
      obtain ⟨others, hothers, h⟩ := Result.of_bind h
      cases h
      rcases List.mem_cons.mp hentry with heq | hentry
      · cases heq
        exact admits_of_convertValue hvalue p.2 hop
      · exact ih hothers hentry

/-! ## Empty filters -/

theorem convertValue_ne_nil {field : String} {value : Json} {operators : Dict Json}
    (h : v.convertValue field value = .ok operators) : operators ≠ [] := by
  unfold convertValue at h
  split at h
  · cases h
  · cases h
  · rename_i given hne
    obtain ⟨_, -, h⟩ := Result.of_bind h
    cases h
    exact hne
  · split at h
    · cases h
      simp
    · cases h

/-- No field of a converted filter is without an operator. -/
theorem operators_ne_nil_of_convert (h : v.convert input = .ok f) : ∀ entry ∈ f, entry.2 ≠ [] := by
  induction input generalizing f with
  | nil =>
    cases h
    simp
  | cons first rest ih =>
    obtain ⟨field, value⟩ := first
    unfold convert at h
    obtain ⟨_, -, h⟩ := Result.of_bind h
    split at h
    · exact ih h
    · obtain ⟨operators, hvalue, h⟩ := Result.of_bind h
      obtain ⟨others, hothers, h⟩ := Result.of_bind h
      cases h
      intro entry hentry
      rcases List.mem_cons.mp hentry with rfl | hentry
      · exact convertValue_ne_nil hvalue
      · exact ih hothers entry hentry

/-- A filter is empty once it is converted when it has no key but unset ones. -/
theorem convert_eq_nil_iff :
    v.convert input = .ok [] ↔ ∀ entry ∈ input, checkKey entry.1 = .ok () ∧ entry.2 = none := by
  induction input with
  | nil => simp [convert]
  | cons first rest ih =>
    obtain ⟨field, value⟩ := first
    rw [List.forall_mem_cons, ← ih]
    constructor
    · intro h
      unfold convert at h
      obtain ⟨_, hkey, h⟩ := Result.of_bind h
      split at h
      · exact ⟨⟨hkey, rfl⟩, h⟩
      · obtain ⟨operators, -, h⟩ := Result.of_bind h
        obtain ⟨others, -, h⟩ := Result.of_bind h
        cases h
    · rintro ⟨⟨hkey, rfl⟩, hrest⟩
      unfold convert
      rw [hkey]
      exact hrest

/-! ## Acceptance -/

theorem holds_iff {subject : Json} :
    v.holds f subject = true
      ↔ ∀ p ∈ f.predicates, v.satisfies (valueAt subject p.1) p.2 = true := by
  unfold holds
  simp only [List.all_eq_true, Filter.mem_predicates]
  constructor
  · rintro h p ⟨operators, hentry, hop⟩
    exact h _ hentry _ hop
  · intro h entry hentry op hop
    exact h (entry.1, op) ⟨entry.2, hentry, hop⟩

/-- The value at a key without dots is the member of that key. -/
theorem valueAt_of_isIdentifier {row : Dict Json} {key : String} {value : Json}
    (hkey : Text.isIdentifier key = true) (h : Dict.get? row key = some value) :
    valueAt (.obj row) key = value := by
  have hsplit : Text.split '.' key = [key] := by
    rw [Text.split, Text.pieces_eq_singleton (Text.dot_notMem_of_isIdentifier hkey)]
    simp
  simp [valueAt, hsplit, Json.get?, h]

end EntityMapper.Validator
