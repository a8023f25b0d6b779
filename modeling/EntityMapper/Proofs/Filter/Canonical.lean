import EntityMapper.Proofs.Filter.Validator
import EntityMapper.Proofs.Json.Reading

/-!
# Canonical filters

A converted filter is canonical: as a document it is converted to itself. So are the document of the
fields that the caller has set, and the JSON texts of both documents, where text can hold their values.
-/

namespace EntityMapper

/-! ## Documents -/

namespace FilterInput

/-- The fields that are set, with their values. -/
def given (input : FilterInput) : Dict Json :=
  input.filterMap fun (field, value) => value.map fun v => (field, v)

/-- The `where` document of the fields that are set. -/
def toJson (input : FilterInput) : Json := .obj input.given

end FilterInput

namespace Validator

variable {v : Validator} {input : FilterInput} {f : Filter} {field : String} {value : Json}
  {operators : Dict Json}

/-! ## One field -/

/-- The operators of a field are those that were given, or equality with a bare value. -/
theorem convertValue_cases (h : v.convertValue field value = .ok operators) :
    value = .obj operators ∨ operators = [("$eq", value)] ∧ v.equality.accepts value = true := by
  unfold convertValue at h
  split at h
  · cases h
  · cases h
  · obtain ⟨_, -, h⟩ := Result.of_bind h
    cases h
    exact .inl rfl
  · split at h
    · rename_i haccepts
      cases h
      exact .inr ⟨rfl, haccepts⟩
    · cases h

/-- What a field was converted to is converted to itself. -/
theorem convertValue_obj (h : v.convertValue field value = .ok operators) :
    v.convertValue field (.obj operators) = .ok operators := by
  obtain rfl | ⟨rfl, haccepts⟩ := convertValue_cases h
  · exact h
  · have hcheck : v.checkOperand field ("$eq", value) = .ok () := by
      unfold checkOperand
      rw [show v.operator? "$eq" = some v.equality from (Option.some_get v.hasEq).symm]
      exact if_pos haccepts
    change (do [("$eq", value)].forM (v.checkOperand field); return [("$eq", value)]) = _
    rw [Result.forM_ok_iff.mpr (by simpa using hcheck)]
    rfl

/-! ## All fields -/

/-- One field that is set becomes one entry of the filter. -/
def Converts (v : Validator) (entry : String × Json) (converted : String × Dict Json) : Prop :=
  entry.1 = converted.1 ∧ checkKey entry.1 = .ok () ∧ v.convertValue entry.1 entry.2 = .ok converted.2

theorem converts_of_convert (h : v.convert input = .ok f) :
    List.Forall₂ v.Converts input.given f := by
  induction input generalizing f with
  | nil =>
    cases h
    exact .nil
  | cons entry rest ih =>
    obtain ⟨field, value⟩ := entry
    unfold convert at h
    obtain ⟨_, hkey, h⟩ := Result.of_bind h
    split at h
    · exact ih h
    · obtain ⟨operators, hvalue, h⟩ := Result.of_bind h
      obtain ⟨others, hothers, h⟩ := Result.of_bind h
      cases h
      exact .cons ⟨rfl, hkey, hvalue⟩ (ih hothers)

/-- A document is converted entry by entry. -/
theorem convertJson_of_converts {members : Dict Json} (h : List.Forall₂ v.Converts members f) :
    v.convertJson (.obj members) = .ok f := by
  change v.convert (members.map fun member => (member.1, some member.2)) = .ok f
  induction h with
  | nil => rfl
  | cons hfirst _ ih =>
    obtain ⟨hname, hkey, hvalue⟩ := hfirst
    rw [List.map_cons]
    unfold convert
    rw [hkey]
    change (v.convertValue _ _ >>= _) = _
    rw [hvalue, ih, hname]
    rfl

/-- What the fields were converted to is converted in the same way once more. -/
theorem converts_again {members : Dict Json} (h : List.Forall₂ v.Converts members f) :
    List.Forall₂ v.Converts (f.map fun (field, operators) => (field, .obj operators)) f := by
  rw [List.forall₂_map_left_iff, List.forall₂_same]
  intro entry hentry
  obtain ⟨_, -, hname, hkey, hvalue⟩ := Result.exists_of_mem_right h hentry
  rw [hname] at hkey hvalue
  exact ⟨rfl, hkey, convertValue_obj hvalue⟩

/-! ## Text -/

theorem wellFormed_of_convertValue (h : v.convertValue field value = .ok operators)
    (hvalue : value.WellFormed) : (Json.obj operators).WellFormed := by
  obtain rfl | ⟨rfl, -⟩ := convertValue_cases h
  · exact hvalue
  · exact ⟨List.pairwise_singleton _ _, hvalue, trivial⟩

theorem floatFree_of_convertValue (h : v.convertValue field value = .ok operators)
    (hfree : (Json.obj operators).FloatFree) : value.FloatFree := by
  obtain rfl | ⟨rfl, -⟩ := convertValue_cases h
  · exact hfree
  · exact hfree.1

theorem depth_le_of_convertValue (h : v.convertValue field value = .ok operators) :
    value.depth ≤ (Json.obj operators).depth := by
  obtain rfl | ⟨rfl, -⟩ := convertValue_cases h
  · exact Nat.le_refl _
  · simp only [Json.depth, Json.depthMembers]
    omega

theorem keys_of_converts {members : Dict Json} (h : List.Forall₂ v.Converts members f) :
    f.map Prod.fst = members.map Prod.fst := by
  induction h with
  | nil => rfl
  | cons hfirst _ ih => rw [List.map_cons, List.map_cons, hfirst.1, ih]

/-- The canonical document is made of the values that were given. -/
theorem wellFormed_toJson {members : Dict Json} (h : List.Forall₂ v.Converts members f)
    (hmembers : (Json.obj members).WellFormed) : f.toJson.WellFormed := by
  obtain ⟨hsorted, hvalues⟩ := hmembers
  refine ⟨?_, (Json.wellFormedMembers_iff _).mpr fun entry hentry => ?_⟩
  · rw [Dict.Sorted, List.map_map]
    exact (keys_of_converts h).symm ▸ hsorted
  · obtain ⟨converted, hconverted, rfl⟩ := List.mem_map.mp hentry
    obtain ⟨given, hgiven, -, -, hvalue⟩ := Result.exists_of_mem_right h hconverted
    exact wellFormed_of_convertValue hvalue ((Json.wellFormedMembers_iff _).mp hvalues given hgiven)

/-- It has all numbers that were given, and nests no less. -/
theorem readable_of_toJson {members : Dict Json} (h : List.Forall₂ v.Converts members f)
    (hfree : f.toJson.FloatFree) :
    (Json.obj members).FloatFree ∧ (Json.obj members).depth ≤ f.toJson.depth := by
  induction h with
  | nil => exact ⟨trivial, Nat.le_refl _⟩
  | cons hfirst _ ih =>
    obtain ⟨-, -, hvalue⟩ := hfirst
    obtain ⟨hfirstFree, hrestFree⟩ := hfree
    obtain ⟨ihfree, ihdepth⟩ := ih hrestFree
    refine ⟨⟨floatFree_of_convertValue hvalue hfirstFree, ihfree⟩, ?_⟩
    have hdepth := depth_le_of_convertValue hvalue
    simp only [Filter.toJson, Json.depth, Json.depthMembers, List.map_cons] at hdepth ihdepth ⊢
    omega

/-- The text of a document stands for the document. -/
theorem convertJson_text {members : Dict Json} (hwell : (Json.obj members).WellFormed)
    (hfree : (Json.obj members).FloatFree) (hdepth : (Json.obj members).depth ≤ Json.nestingLimit) :
    v.convertJson (.str (Json.obj members).compact) = v.convertJson (.obj members) := by
  have hread := Json.read?_compact hwell hfree hdepth
  simp only [convertJson, FilterInput.ofJson, hread]

/-! ## Canonical form -/

/-- Every form of a filter reaches the same canonical filter: as it was given, as the document of the
fields that are set, as the canonical document, and as the text of either where text can hold the
values. The values have to be well formed for it, which all values of JSON text are
(`Json.wellFormed_of_parse?`). -/
theorem convert_canonical (h : v.convert input = .ok f) :
    v.convertJson f.toJson = .ok f
      ∧ v.convertJson input.toJson = .ok f
      ∧ (input.toJson.WellFormed → f.toJson.FloatFree → f.toJson.depth ≤ Json.nestingLimit →
        v.convertJson (.str f.toJson.compact) = .ok f
          ∧ v.convertJson (.str input.toJson.compact) = .ok f) := by
  have hconverts := converts_of_convert h
  have hagain : v.convertJson f.toJson = .ok f := convertJson_of_converts (converts_again hconverts)
  have hgiven : v.convertJson input.toJson = .ok f := convertJson_of_converts hconverts
  refine ⟨hagain, hgiven, fun hwell hfree hdepth => ?_⟩
  obtain ⟨hgivenFree, hgivenDepth⟩ := readable_of_toJson hconverts hfree
  constructor
  · exact (convertJson_text (wellFormed_toJson hconverts hwell) hfree hdepth).trans hagain
  · exact (convertJson_text hwell hgivenFree (Nat.le_trans hgivenDepth hdepth)).trans hgiven

/-- A bare text with quotes in it, operators with a list among their operands, and an unset field. -/
def asked : FilterInput :=
  [ ("author.name", some (.str "\"Ann\""))
  , ("rank", some (.obj [("$gt", .int 2), ("$notin", .arr [.int 5, .str "n\n"])]))
  , ("title", none) ]

/-- Its canonical form. -/
def understood : Filter :=
  [ ("author.name", [("$eq", .str "\"Ann\"")])
  , ("rank", [("$gt", .int 2), ("$notin", .arr [.int 5, .str "n\n"])]) ]

theorem convert_canonical_asked :
    default.convert asked = .ok understood
      ∧ asked.toJson.WellFormed
      ∧ understood.toJson.FloatFree ∧ understood.toJson.depth ≤ Json.nestingLimit
      ∧ default.convertJson understood.toJson = .ok understood
      ∧ default.convertJson asked.toJson = .ok understood
      ∧ default.convertJson (.str understood.toJson.compact) = .ok understood
      ∧ default.convertJson (.str asked.toJson.compact) = .ok understood := by
  have hconvert : default.convert asked = .ok understood := rfl
  have hfields : Dict.Sorted asked.given := by
    unfold Dict.Sorted
    decide
  have hoperators : Dict.Sorted [("$gt", Json.int 2), ("$notin", .arr [.int 5, .str "n\n"])] := by
    unfold Dict.Sorted
    decide
  have hwell : asked.toJson.WellFormed := by
    refine ⟨hfields, trivial, ⟨hoperators, ?_⟩, trivial⟩
    simp [Json.WellFormed, Json.WellFormedMembers, Json.WellFormedItems, Json.Fits, Json.unsignedLimit]
  have hfree : understood.toJson.FloatFree := by
    simp [understood, Filter.toJson, Json.FloatFree, Json.FloatFreeMembers, Json.FloatFreeItems]
  have hdepth : understood.toJson.depth ≤ Json.nestingLimit := by decide
  obtain ⟨hagain, hgiven, htexts⟩ := convert_canonical hconvert
  exact ⟨hconvert, hwell, hfree, hdepth, hagain, hgiven, htexts hwell hfree hdepth⟩

end Validator
end EntityMapper
