import EntityMapper.Proofs.Filter.Canonical

/-!
# The language of filters

What a validator accepts as a filter, said key by key, and what it makes of it. A filter that is not
accepted is refused for its first key that does not fit, which the error names.
-/

namespace EntityMapper

/-- The operators that a value stands for. -/
def Json.asOperators : Json → Dict Json
  | .obj operators => operators
  | bare => [("$eq", bare)]

/-- The filter with an entry for each field that is set. -/
def FilterInput.canonical (input : FilterInput) : Filter :=
  input.given.map fun (field, value) => (field, value.asOperators)

/-- The key of a filter that an error is about. -/
def QueryError.filterKey? : QueryError → Option String
  | .reservedKey key => some key
  | .notAFieldName field => some field
  | .nullFilter field => some field
  | .noOperators field => some field
  | .unknownOperator field _ => some field
  | .rejectedValue field _ _ => some field
  | _ => none

namespace Validator

variable {v : Validator} {input : FilterInput} {f : Filter} {field : String} {value : Json}
  {operators : Dict Json} {entry : String × Option Json} {e : QueryError}

/-! ## What fits -/

/-- A field may be filtered by the value: equality accepts it, or it is an object with at least one
member, whose keys are operators that accept the values. -/
inductive Takes (v : Validator) : Json → Prop where
  | bare {value : Json} : value.isNull = false → value.obj? = none →
      v.equality.accepts value = true → Takes v value
  | object {operators : Dict Json} : operators ≠ [] → (∀ entry ∈ operators, v.Admits entry) →
      Takes v (.obj operators)

/-- The key is an identifier, or two of them joined by a dot, and its value, where there is one, may
be filtered by. -/
def Fits (v : Validator) (entry : String × Option Json) : Prop :=
  (Text.isIdentifier entry.1 = true
    ∨ ∃ r n, entry.1 = r ++ "." ++ n ∧ Text.isIdentifier r = true ∧ Text.isIdentifier n = true)
  ∧ ∀ value ∈ entry.2, v.Takes value

theorem checkKey_ok_iff : checkKey field = .ok () ↔ Text.isPath field = true := by
  unfold checkKey
  constructor
  · intro h
    split at h
    · cases h
    · split at h
      · assumption
      · cases h
  · intro h
    obtain ⟨c, cs, hcs, hc⟩ := Text.exists_cons_of_isPath h
    have hdollar : field.toList.head? ≠ some '$' := by
      rw [hcs]
      rintro ⟨⟩
      exact absurd hc (by decide)
    rw [if_neg hdollar, if_pos h]

theorem checkOperand_ok_iff {entry : String × Json} :
    v.checkOperand field entry = .ok () ↔ v.Admits entry := by
  refine ⟨admits_of_checkOperand, fun ⟨op, hop, haccepts⟩ => ?_⟩
  unfold checkOperand
  rw [hop]
  exact if_pos haccepts

theorem convertValue_bare (hnull : value.isNull = false) (hobj : value.obj? = none) :
    v.convertValue field value = if v.equality.accepts value then .ok [("$eq", value)]
      else .error (.rejectedValue field "$eq" value) := by
  cases value with
  | null => cases hnull
  | obj members => cases hobj
  | _ => rfl

theorem convertValue_object (hne : operators ≠ []) :
    v.convertValue field (.obj operators) =
      operators.forM (v.checkOperand field) >>= fun _ => .ok operators := by
  obtain ⟨first, rest, rfl⟩ := List.exists_cons_of_ne_nil hne
  rfl

theorem asOperators_bare (hobj : value.obj? = none) : value.asOperators = [("$eq", value)] := by
  cases value with
  | obj members => cases hobj
  | _ => rfl

/-- A value is null, an object without members or one with some, or bare. -/
theorem value_cases (value : Json) : value = .null ∨ value = .obj []
    ∨ (∃ operators, operators ≠ [] ∧ value = .obj operators)
    ∨ value.isNull = false ∧ value.obj? = none := by
  cases value with
  | null => exact .inl rfl
  | obj members =>
    by_cases hne : members = []
    · exact .inr (.inl (congrArg Json.obj hne))
    · exact .inr (.inr (.inl ⟨members, hne, rfl⟩))
  | _ => exact .inr (.inr (.inr ⟨rfl, rfl⟩))

theorem convertValue_of_takes (h : v.Takes value) :
    v.convertValue field value = .ok value.asOperators := by
  cases h with
  | bare hnull hobj haccepts =>
    rw [convertValue_bare hnull hobj, if_pos haccepts, asOperators_bare hobj]
  | object hne hadmits =>
    rw [convertValue_object hne,
      Result.forM_ok_iff.mpr fun entry hentry => checkOperand_ok_iff.mpr (hadmits entry hentry)]
    rfl

theorem takes_of_convertValue (h : v.convertValue field value = .ok operators) : v.Takes value := by
  obtain rfl | rfl | ⟨members, hne, rfl⟩ | ⟨hnull, hobj⟩ := value_cases value
  · cases h
  · cases h
  · rw [convertValue_object hne] at h
    obtain ⟨_, hall, -⟩ := Result.of_bind h
    exact .object hne (admits_of_forM hall)
  · rw [convertValue_bare hnull hobj] at h
    split at h
    · rename_i haccepts
      exact .bare hnull hobj haccepts
    · cases h

theorem filterKey?_of_checkOperand {entry : String × Json}
    (h : v.checkOperand field entry = .error e) : e.filterKey? = some field := by
  unfold checkOperand at h
  split at h
  · cases h
    rfl
  · split at h
    · cases h
    · cases h
      rfl

theorem filterKey?_of_convertValue (h : v.convertValue field value = .error e) :
    e.filterKey? = some field := by
  obtain rfl | rfl | ⟨members, hne, rfl⟩ | ⟨hnull, hobj⟩ := value_cases value
  · cases h
    rfl
  · cases h
    rfl
  · rw [convertValue_object hne] at h
    rcases Result.error_of_bind h with h | ⟨_, -, h⟩
    · obtain ⟨entry, -, hentry⟩ := Result.error_of_forM h
      exact filterKey?_of_checkOperand hentry
    · cases h
  · rw [convertValue_bare hnull hobj] at h
    split at h
    · cases h
    · cases h
      rfl

theorem filterKey?_of_checkKey (h : checkKey field = .error e) :
    e.filterKey? = some field := by
  unfold checkKey at h
  split at h
  · cases h
    rfl
  · split at h
    · cases h
    · cases h
      rfl

/-! ## One key after the other -/

/-- The entry of the filter that a key becomes, when it is set. -/
def convertEntry (v : Validator) (entry : String × Option Json) : Except QueryError Filter := do
  checkKey entry.1
  match entry.2 with
  | none => return []
  | some value => return [(entry.1, ← v.convertValue entry.1 value)]

theorem convert_cons (v : Validator) (entry : String × Option Json) (rest : FilterInput) :
    v.convert (entry :: rest) = v.convertEntry entry >>= fun first =>
      v.convert rest >>= fun others => .ok (first ++ others) := by
  obtain ⟨field, value⟩ := entry
  rw [convert.eq_def, convertEntry]
  dsimp only
  cases checkKey field with
  | error e => rfl
  | ok u =>
    cases value with
    | none =>
      change v.convert rest = v.convert rest >>= fun others => .ok others
      cases v.convert rest <;> rfl
    | some value =>
      change (v.convertValue field value >>= _) = (v.convertValue field value >>= _) >>= _
      cases v.convertValue field value <;> rfl

theorem convertEntry_ok_iff :
    v.convertEntry entry = .ok f ↔ v.Fits entry ∧ f = FilterInput.canonical [entry] := by
  obtain ⟨field, value⟩ := entry
  unfold Fits
  rw [← Text.isPath_iff, ← checkKey_ok_iff]
  constructor
  · intro h
    obtain ⟨_, hkey, h⟩ := Result.of_bind h
    cases value with
    | none =>
      cases h
      exact ⟨⟨hkey, by simp⟩, rfl⟩
    | some value =>
      obtain ⟨operators, hvalue, h⟩ := Result.of_bind h
      cases h
      have htakes := takes_of_convertValue hvalue
      obtain rfl := Except.ok.inj (hvalue.symm.trans (convertValue_of_takes htakes))
      exact ⟨⟨hkey, by simpa using htakes⟩, rfl⟩
  · rintro ⟨⟨hkey, htakes⟩, rfl⟩
    unfold convertEntry
    rw [hkey]
    cases value with
    | none => rfl
    | some value =>
      change (v.convertValue field value >>= _) = _
      rw [convertValue_of_takes (htakes value rfl)]
      rfl

theorem filterKey?_of_convertEntry (h : v.convertEntry entry = .error e) :
    e.filterKey? = some entry.1 := by
  obtain ⟨field, value⟩ := entry
  rcases Result.error_of_bind h with hkey | ⟨_, -, h⟩
  · exact filterKey?_of_checkKey hkey
  · cases value with
    | none => cases h
    | some value =>
      rcases Result.error_of_bind h with hvalue | ⟨_, -, h⟩
      · exact filterKey?_of_convertValue hvalue
      · cases h

/-! ## The whole filter -/

theorem canonical_cons (entry : String × Option Json) (rest : FilterInput) :
    FilterInput.canonical (entry :: rest)
      = FilterInput.canonical [entry] ++ FilterInput.canonical rest := by
  unfold FilterInput.canonical FilterInput.given
  rw [← List.map_append, ← List.filterMap_append]
  rfl

theorem convert_ok_iff :
    v.convert input = .ok f ↔ (∀ entry ∈ input, v.Fits entry) ∧ f = input.canonical := by
  induction input generalizing f with
  | nil => simp [convert, FilterInput.canonical, FilterInput.given, eq_comm]
  | cons entry rest ih =>
    rw [convert_cons, List.forall_mem_cons, canonical_cons]
    constructor
    · intro h
      obtain ⟨first, hfirst, h⟩ := Result.of_bind h
      obtain ⟨others, hothers, h⟩ := Result.of_bind h
      cases h
      obtain ⟨hfits, rfl⟩ := convertEntry_ok_iff.mp hfirst
      obtain ⟨hall, rfl⟩ := ih.mp hothers
      exact ⟨⟨hfits, hall⟩, rfl⟩
    · rintro ⟨⟨hfits, hall⟩, rfl⟩
      rw [convertEntry_ok_iff.mpr ⟨hfits, rfl⟩, ih.mpr ⟨hall, rfl⟩]
      rfl

/-- The first entry that does not fit is refused, and its refusal is the outcome. -/
theorem convert_error (h : v.convert input = .error e) :
    ∃ before entry after, input = before ++ entry :: after ∧ (∀ x ∈ before, v.Fits x)
      ∧ v.convertEntry entry = .error e := by
  induction input with
  | nil => cases h
  | cons entry rest ih =>
    rw [convert_cons] at h
    rcases Result.error_of_bind h with hentry | ⟨first, hentry, h⟩
    · exact ⟨[], entry, rest, rfl, by simp, hentry⟩
    · rcases Result.error_of_bind h with hrest | ⟨_, -, h⟩
      · obtain ⟨before, bad, after, rfl, hbefore, hbad⟩ := ih hrest
        refine ⟨entry :: before, bad, after, rfl, ?_, hbad⟩
        exact List.forall_mem_cons.mpr ⟨(convertEntry_ok_iff.mp hentry).1, hbefore⟩
      · cases h

/-- A filter is accepted exactly when all of its keys fit, also those that are unset, and becomes the
filter of the keys that are set, each with the operators that its value stands for. Else it is refused
for the first key that does not fit, which the error names; of the keys in order it is the least. -/
theorem convert_grammar (v : Validator) (input : FilterInput) :
    (∀ f, v.convert input = .ok f ↔ (∀ entry ∈ input, v.Fits entry) ∧ f = input.canonical)
      ∧ ∀ e, v.convert input = .error e →
        ∃ before entry after, input = before ++ entry :: after
          ∧ (∀ other ∈ before, v.Fits other) ∧ ¬v.Fits entry
          ∧ v.convertEntry entry = .error e ∧ e.filterKey? = some entry.1
          ∧ (Dict.Sorted input → ∀ other ∈ input, ¬v.Fits other → entry.1 ≤ other.1) := by
  refine ⟨fun f => convert_ok_iff, fun e he => ?_⟩
  obtain ⟨before, entry, after, rfl, hbefore, hentry⟩ := convert_error he
  have hunfit : ¬v.Fits entry := by
    intro hfits
    rw [convertEntry_ok_iff.mpr ⟨hfits, rfl⟩] at hentry
    cases hentry
  refine ⟨before, entry, after, rfl, hbefore, hunfit, hentry, filterKey?_of_convertEntry hentry, ?_⟩
  intro hsorted other hother hother'
  rw [Dict.Sorted, List.map_append, List.map_cons, List.pairwise_append] at hsorted
  rcases List.mem_append.mp hother with hmem | hmem
  · exact absurd (hbefore other hmem) hother'
  · rcases List.mem_cons.mp hmem with rfl | hmem
    · exact String.le_refl _
    · exact Std.le_of_lt ((List.pairwise_cons.mp hsorted.2.1).1 other.1 (List.mem_map_of_mem hmem))

/-- A key that fits, one with an operator that is not known, and an unset one that is no field. -/
def misspelt : FilterInput :=
  [ ("author.name", some (.str "Ann"))
  , ("rank", some (.obj [("$gt", .int 2), ("$near", .int 5)]))
  , ("title.", none) ]

theorem convert_grammar_misspelt :
    default.convert misspelt = .error (.unknownOperator "rank" "$near") ∧ Dict.Sorted misspelt
      ∧ ∃ before entry after, misspelt = before ++ entry :: after
        ∧ (∀ other ∈ before, default.Fits other) ∧ ¬default.Fits entry
        ∧ (QueryError.unknownOperator "rank" "$near").filterKey? = some entry.1
        ∧ ∀ other ∈ misspelt, ¬default.Fits other → entry.1 ≤ other.1 := by
  have hrefused : default.convert misspelt = .error (.unknownOperator "rank" "$near") := rfl
  have hsorted : Dict.Sorted misspelt := by
    unfold Dict.Sorted
    decide
  obtain ⟨before, entry, after, hparts, hbefore, hunfit, -, hkey, hleast⟩ :=
    (convert_grammar default misspelt).2 _ hrefused
  exact ⟨hrefused, hsorted, before, entry, after, hparts, hbefore, hunfit, hkey, hleast hsorted⟩

end Validator
end EntityMapper
