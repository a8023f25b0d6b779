import EntityMapper.Proofs.Dialect.Stored
import EntityMapper.Proofs.Filter.Agreement

/-!
# Filters in statements

What the default operators accept as operands is what conditions can be made of. A converted filter
becomes conditions unless one of its keys names no column, or a value that a column is compared with
is not of the type of its field.
-/

namespace EntityMapper

/-! ## Operands -/

/-- The values that a column is compared with by an operator. A pattern is compared as text, and a
flag with nothing. -/
def Operator.compared (key : String) (operand : Json) : List Json :=
  match key with
  | "$isnull" | "$notnull" | "$like" => []
  | "$in" | "$notin" | "$between" => operand.arr?.getD []
  | _ => [operand]

/-- A condition can be made of the operator and the operand on every column that takes the values. -/
def Operator.Translates (key : String) (operand : Json) : Prop :=
  key ∈ Operator.defaults.map (·.key) ∧ (key = "$between" → ∃ low high, operand = .arr [low, high])

theorem Operator.translates_of_accepts {op : Operator} {operand : Json} (hop : op ∈ defaults)
    (h : op.accepts operand = true) : Translates op.key operand := by
  refine ⟨List.mem_map_of_mem hop, fun hkey => ?_⟩
  simp only [defaults, eq, List.mem_cons, List.not_mem_nil, or_false] at hop
  rcases hop with rfl | rfl | rfl | rfl | rfl | rfl | rfl | rfl | rfl | rfl | rfl | rfl
  case inr.inr.inr.inr.inr.inr.inr.inr.inr.inr.inl =>
    obtain ⟨low, high, rfl, -⟩ := bounds_of_isPairOf h
    exact ⟨low, high, rfl⟩
  all_goals exact absurd hkey (by decide)

theorem Operator.translates_in (values : List Json) : Translates "$in" (.arr values) :=
  ⟨by decide, fun hkey => absurd hkey (by decide)⟩

namespace Sql.Condition

variable {d : Dialect} {s : Scope} {col : Column} {f : Field} {key : String} {operand : Json}
  {e : DataError}

theorem error_of_membership {negated : Bool} (h : membership d col f negated operand = .error e) :
    ∃ value ∈ operand.arr?.getD [], Condition.operand d f value = .error e := by
  unfold membership at h
  split at h
  · cases h
  · rcases Result.error_of_bind h with h | ⟨_, -, h⟩
    · exact Result.error_of_mapM h
    · cases h

theorem error_of_ofOperator (htranslates : Operator.Translates key operand)
    (h : ofOperator d col f key operand = .error e) :
    ∃ value ∈ Operator.compared key operand, Condition.operand d f value = .error e := by
  obtain ⟨hkey, hbounds⟩ := htranslates
  unfold ofOperator at h
  split at h
  case h_7 | h_8 | h_12 => cases h
  case h_9 | h_10 => exact error_of_membership h
  case h_11 =>
    obtain ⟨low, high, rfl⟩ := hbounds rfl
    rcases Result.error_of_bind h with h | ⟨_, -, h⟩
    · exact ⟨low, by simp [Operator.compared, Json.arr?], h⟩
    · rcases Result.error_of_bind h with h | ⟨_, -, h⟩
      · exact ⟨high, by simp [Operator.compared, Json.arr?], h⟩
      · cases h
  case h_13 => simp_all [Operator.defaults, Operator.eq]
  all_goals
    rcases Result.error_of_bind h with h | ⟨_, -, h⟩
    · exact ⟨operand, by simp [Operator.compared], h⟩
    · cases h

theorem compared_of_ofOperator {c : Condition} (h : ofOperator d col f key operand = .ok c) :
    ∀ value ∈ Operator.compared key operand, ∃ o, Condition.operand d f value = .ok o := by
  unfold ofOperator at h
  split at h
  case h_7 | h_8 | h_12 => simp [Operator.compared]
  case h_9 | h_10 =>
    rcases membership_ok h with ⟨-, hnil⟩ | ⟨os, hos, -, -⟩
    · simp [Operator.compared, hnil]
    · intro value hvalue
      obtain ⟨o, -, ho⟩ := Result.exists_of_mem_left hos hvalue
      exact ⟨o, ho⟩
  case h_11 =>
    obtain ⟨_, _, o, o', rfl, ho, ho', -⟩ := between_ok h
    simp [Operator.compared, Json.arr?, ho, ho']
  case h_13 => cases h
  all_goals
    obtain ⟨o, ho, -⟩ := Result.of_bind h
    simp [Operator.compared, ho]

theorem error_of_operand {value : Json} (h : Condition.operand d f value = .error e) :
    ∃ x, f.check value = .error x ∧ e = .invalid x := by
  unfold Condition.operand at h
  rw [Dialect.encode_eq] at h
  cases hcheck : f.check value with
  | ok w => simp [hcheck, Except.map] at h
  | error x =>
    simp only [hcheck, Except.map, Except.error.injEq] at h
    exact ⟨x, rfl, h.symm⟩

/-- An entry fails for its key, or for one of its operators. -/
theorem error_of_ofEntry {entry : String × Dict Json} (h : ofEntry d s entry = .error e) :
    (∃ fault, s.resolve entry.1 = .error fault ∧ e = .query fault)
      ∨ ∃ col f, s.resolve entry.1 = .ok (col, f)
        ∧ ∃ p ∈ entry.2, ofOperator d col f p.1 p.2 = .error e := by
  unfold ofEntry at h
  split at h
  · rename_i fault hresolve
    cases h
    exact .inl ⟨fault, hresolve, rfl⟩
  · rename_i col f hresolve
    exact .inr ⟨col, f, hresolve, Result.error_of_mapM h⟩

theorem error_of_ofFilter {filter : Filter} (h : ofFilter d s filter = .error e) :
    ∃ entry ∈ filter, ofEntry d s entry = .error e := by
  rcases Result.error_of_bind h with h | ⟨_, -, h⟩
  · exact Result.error_of_mapM h
  · cases h

end Sql.Condition

namespace Sql.Scope

variable {s : Scope} {e : Entity} {f : Field} {name key : String} {fault : QueryError}

theorem isStored_of_storedField (h : storedField e name = .ok f) : f.isStored = true := by
  unfold storedField Entity.storedField? at h
  split at h
  · rename_i found hfound
    cases h
    exact (Option.filter_eq_some_iff.mp hfound).2
  · cases h

theorem isStored_of_resolve {col : Column} (h : s.resolve key = .ok (col, f)) :
    f.isStored = true := by
  unfold resolve at h
  split at h
  · obtain ⟨_, hf, h⟩ := Result.of_bind h
    cases h
    exact isStored_of_storedField hf
  · split at h
    · cases h
    · obtain ⟨_, hf, h⟩ := Result.of_bind h
      cases h
      exact isStored_of_storedField hf

theorem error_of_storedField (h : storedField e name = .error fault) :
    fault = .unknownField e.name name := by
  unfold storedField at h
  split at h <;> cases h
  rfl

/-- A key that names no column is refused for its field or for its relation. -/
theorem error_of_resolve (h : s.resolve key = .error fault) :
    (∃ entity name, fault = .unknownField entity name)
      ∨ ∃ relation, fault = .unknownRelation s.entity.name relation := by
  unfold resolve at h
  split at h
  · rcases Result.error_of_bind h with h | ⟨_, -, h⟩
    · exact .inl ⟨_, _, error_of_storedField h⟩
    · cases h
  · split at h
    · cases h
      exact .inr ⟨_, rfl⟩
    · rcases Result.error_of_bind h with h | ⟨_, -, h⟩
      · exact .inl ⟨_, _, error_of_storedField h⟩
      · cases h

end Sql.Scope

/-! ## Default operators -/

namespace Validator

variable {v : Validator}

/-- The validator is made of default operators, of all or of some with `$eq` among them. -/
def OfDefaults (v : Validator) : Prop :=
  ∃ ops, (∀ op ∈ ops, op ∈ Operator.defaults) ∧ ofOperators ops = .ok v

theorem OfDefaults.operator (hv : v.OfDefaults) {key : String} {op : Operator}
    (h : v.operator? key = some op) : op ∈ Operator.defaults ∧ op.key = key := by
  obtain ⟨ops, hops, hv⟩ := hv
  obtain ⟨all, hall, hv⟩ := Result.of_bind hv
  have hentries : ∀ entry ∈ all, entry.2 ∈ Operator.defaults ∧ entry.2.key = entry.1 := by
    refine Result.of_foldlM (P := fun all : Dict Operator =>
      ∀ entry ∈ all, entry.2 ∈ Operator.defaults ∧ entry.2.key = entry.1) hall (by simp) ?_
    intro op hop known known' hknown hadd entry hentry
    unfold addOperator at hadd
    split at hadd
    · cases hadd
    · cases hadd
      rcases Dict.mem_of_mem_insert hentry with rfl | hentry
      · exact ⟨hops op hop, rfl⟩
      · exact hknown entry hentry
  split at hv
  · cases hv
    exact hentries _ (Dict.mem_of_get? h)
  · cases hv

theorem OfDefaults.translates (hv : v.OfDefaults) {input : FilterInput} {f : Filter}
    (h : v.convert input = .ok f) : ∀ p ∈ f.predicates, Operator.Translates p.2.1 p.2.2 := by
  intro p hp
  obtain ⟨op, hop, haccepts⟩ := admits_of_convert h p hp
  obtain ⟨hdefault, hkey⟩ := hv.operator hop
  exact hkey ▸ Operator.translates_of_accepts hdefault haccepts

end Validator

/-! ## Whole filters -/

/-- What can be wrong with a filter that is to become conditions. -/
inductive Filter.Complaint (s : Sql.Scope) (f : Filter) : DataError → Prop where
  | unknownField {entry : String × Dict Json} {entity name : String} : entry ∈ f →
      s.resolve entry.1 = .error (.unknownField entity name) →
      Complaint s f (.query (.unknownField entity name))
  | unknownRelation {entry : String × Dict Json} {relation : String} : entry ∈ f →
      s.resolve entry.1 = .error (.unknownRelation s.entity.name relation) →
      Complaint s f (.query (.unknownRelation s.entity.name relation))
  | mismatch {p : String × String × Json} {col : Sql.Column} {field : Field} {value : Json}
      {expected : String} : p ∈ f.predicates → s.resolve p.1 = .ok (col, field) →
      value ∈ Operator.compared p.2.1 p.2.2 →
      field.check value = .error (.mismatch field.name expected value) →
      Complaint s f (.invalid (.mismatch field.name expected value))

namespace Sql.Condition

variable {d : Dialect} {s : Scope} {f : Filter} {e : DataError}

theorem complaint_of_ofFilter (hf : ∀ p ∈ f.predicates, Operator.Translates p.2.1 p.2.2)
    (h : ofFilter d s f = .error e) : f.Complaint s e := by
  obtain ⟨entry, hentry, h⟩ := error_of_ofFilter h
  obtain ⟨fault, hresolve, rfl⟩ | ⟨col, field, hresolve, p, hp, hop⟩ := error_of_ofEntry h
  · obtain ⟨entity, name, rfl⟩ | ⟨relation, rfl⟩ := Scope.error_of_resolve hresolve
    · exact .unknownField hentry hresolve
    · exact .unknownRelation hentry hresolve
  · have hmem : (entry.1, p.1, p.2) ∈ f.predicates := Filter.mem_predicates.mpr ⟨_, hentry, hp⟩
    obtain ⟨value, hvalue, hoperand⟩ := error_of_ofOperator (hf _ hmem) hop
    obtain ⟨x, hcheck, rfl⟩ := error_of_operand hoperand
    obtain ⟨expected, rfl⟩ := Field.mismatch_of_check (Scope.isStored_of_resolve hresolve) hcheck
    exact .mismatch hmem hresolve hvalue hcheck

/-- A filter that has become conditions has nothing wrong with it. -/
theorem not_complaint_of_ofFilter {cs : List Condition} (h : ofFilter d s f = .ok cs) :
    ¬f.Complaint s e := by
  obtain ⟨css, hcss, -⟩ := Result.of_bind h
  have hentries := Result.of_mapM hcss
  have hkey {entry : String × Dict Json} (hentry : entry ∈ f) :
      ∃ found, s.resolve entry.1 = .ok found := by
    obtain ⟨_, -, hentry⟩ := Result.exists_of_mem_left hentries hentry
    unfold ofEntry at hentry
    split at hentry
    · cases hentry
    · rename_i hresolve
      exact ⟨_, hresolve⟩
  rintro (⟨hentry, hresolve⟩ | ⟨hentry, hresolve⟩ | ⟨hp, hresolve, hvalue, hcheck⟩)
  · obtain ⟨_, hfound⟩ := hkey hentry
    cases hresolve.symm.trans hfound
  · obtain ⟨_, hfound⟩ := hkey hentry
    cases hresolve.symm.trans hfound
  · obtain ⟨c, -, col, field, hfound, hop⟩ :=
      Result.exists_of_mem_left (ofFilter_predicates h) hp
    cases hresolve.symm.trans hfound
    obtain ⟨o, ho⟩ := compared_of_ofOperator hop _ hvalue
    obtain ⟨w, hw, -⟩ := operand_ok ho
    obtain ⟨taken, htaken⟩ := (d.encode_ok_iff _ _).mp ⟨w, hw⟩
    cases hcheck.symm.trans htaken

end Sql.Condition

/-- A converted filter becomes conditions unless something is wrong with it, and then the error says what
that is: that a key names no column, or that a value is not of the type of its field. That an operator
is not known, or has no two bounds, is no such error. This is also so when the filter is restricted to
some values of a column. -/
theorem converted_filter_complaints (d : Dialect) (s : Sql.Scope) {v : Validator}
    {input : FilterInput} {f g : Filter} (hv : v.OfDefaults) (hf : v.convert input = .ok f)
    (hg : g = f ∨ ∃ column values, g = f.put column "$in" (.arr values)) :
    ((∃ e, Sql.Condition.ofFilter d s g = .error e) ↔ ∃ e, g.Complaint s e)
      ∧ ∀ e, Sql.Condition.ofFilter d s g = .error e → g.Complaint s e
        ∧ (∀ field op, e ≠ .query (.boundsExpected field op)) ∧ ∀ op, e ≠ .query (.untranslatable op) := by
  have htranslates : ∀ p ∈ g.predicates, Operator.Translates p.2.1 p.2.2 := by
    obtain rfl | ⟨column, values, rfl⟩ := hg
    · exact hv.translates hf
    · intro p hp
      rcases Filter.mem_of_mem_predicates_put hp with rfl | hp
      · exact Operator.translates_in values
      · exact hv.translates hf p hp
  have hcomplaint (e : DataError) (h : Sql.Condition.ofFilter d s g = .error e) :=
    Sql.Condition.complaint_of_ofFilter htranslates h
  refine ⟨⟨fun ⟨e, h⟩ => ⟨e, hcomplaint e h⟩, fun ⟨e, h⟩ => ?_⟩, fun e h => ⟨hcomplaint e h, ?_⟩⟩
  · cases hbuilds : Sql.Condition.ofFilter d s g with
    | error e' => exact ⟨e', rfl⟩
    | ok cs => exact absurd h (Sql.Condition.not_complaint_of_ofFilter hbuilds)
  · cases hcomplaint e h <;> exact ⟨nofun, nofun⟩

/-- A validator with two of the default operators, and a filter on the keys of authors. -/
theorem converted_filter_complaints_authors :
    let input : FilterInput :=
      [("id", some (.obj [("$between", .arr [.int 1, .str "9"])])), ("name", some (.str "Ada"))]
    let f : Filter :=
      [("id", [("$between", .arr [.int 1, .str "9"])]), ("name", [("$eq", .str "Ada")])]
    let g := f.put "id" "$in" (.arr [.int 3, .str "x"])
    ∃ v : Validator, v.OfDefaults ∧ v.convert input = .ok f
      ∧ Sql.Condition.ofFilter .sqlite (.of Catalog.authors) g
        = .error (.invalid (.mismatch "id" "an integer key" (.str "x")))
      ∧ g.Complaint (.of Catalog.authors) (.invalid (.mismatch "id" "an integer key" (.str "x"))) := by
  intro input f g
  let ops := Operator.defaults.filter fun op => op.key = "$eq" ∨ op.key = "$between"
  obtain ⟨v, hops, hf⟩ : ∃ v : Validator, Validator.ofOperators ops = .ok v ∧ v.convert input = .ok f :=
    ⟨_, rfl, rfl⟩
  have hv : v.OfDefaults := ⟨ops, fun _ hop => (List.mem_filter.mp hop).1, hops⟩
  have herror : Sql.Condition.ofFilter .sqlite (.of Catalog.authors) g
      = .error (.invalid (.mismatch "id" "an integer key" (.str "x"))) := by
    unfold g f
    rfl
  exact ⟨v, hv, hf, herror,
    ((converted_filter_complaints .sqlite (.of Catalog.authors) hv hf (.inr ⟨_, _, rfl⟩)).2 _ herror).1⟩

end EntityMapper
