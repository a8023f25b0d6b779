import EntityMapper.Proofs.Catalog.Reachable
import EntityMapper.Proofs.Filter.Validator
import EntityMapper.Proofs.Sql.Condition
import EntityMapper.Proofs.Sql.Reading

/-!
# Filters in memory and in SQL

On text columns the default operators other than patterns mean the same where a validator decides
them and where a statement's WHERE clause is read as SQL, with one exception: of a null, a validator
says that it is not in a list of values, and SQL says nothing.
-/

namespace EntityMapper

open Sql

/-! ## Texts and nulls -/

def Sql.Cell.value : Cell → Json
  | none => .null
  | some s => .str s

theorem Sql.cell?_value (a : Cell) : cell? a.value = some a := by cases a <;> rfl

theorem Sql.Cell.value_eq_null {a : Cell} : a.value = .null ↔ a = none := by
  cases a <;> simp [Cell.value]

namespace Operator

/-! ## Order -/

theorem compareText_cases (s t : String) :
    (s < t ∧ s ≠ t ∧ ¬t < s ∧ compareText s t = .lt) ∨ (s = t ∧ compareText s t = .eq)
      ∨ (t < s ∧ s ≠ t ∧ ¬s < t ∧ compareText s t = .gt) := by
  have hne {a b : String} (h : a < b) : a ≠ b := by
    rintro rfl
    exact String.lt_irrefl _ h
  unfold compareText
  rcases Std.lt_trichotomy s t with h | rfl | h
  · exact .inl ⟨h, hne h, String.lt_asymm h, if_pos h⟩
  · exact .inr (.inl ⟨rfl, by simp⟩)
  · exact .inr (.inr ⟨h, (hne h).symm, String.lt_asymm h,
      by rw [if_neg (String.lt_asymm h), if_neg (hne h).symm]⟩)

/-- The results of comparing that a comparison asks for. -/
def orderings : Comparison → List Ordering
  | .eq => [.eq]
  | .gt => [.gt]
  | .gte => [.gt, .eq]
  | .lt => [.lt]
  | .lte => [.lt, .eq]

theorem compareValues_text (a : Cell) (s : String) :
    compareValues a.value (.str s) = a.map (compareText · s) := by
  cases a <;> rfl

/-- A comparison with a text holds in SQL when filters compare as it asks. -/
theorem compare_eq_holds (op : Comparison) (a : Cell) (s : String) :
    Truth.compare op a (some s) = .holds
      ↔ ∃ o ∈ orderings op, compareValues a.value (.str s) = some o := by
  rw [compareValues_text]
  cases a with
  | none => simp
  | some x =>
    rcases compareText_cases x s with ⟨h, hne, hlt, hc⟩ | ⟨rfl, hc⟩ | ⟨h, hne, hlt, hc⟩ <;>
      cases op <;> simp_all [Truth.test, orderings]

theorem atLeast_iff (a b : Json) :
    atLeast a b = true ↔ ∃ o ∈ orderings .gte, compareValues a b = some o := by
  unfold atLeast
  split <;> simp_all [orderings]

theorem atMost_iff (a b : Json) :
    atMost a b = true ↔ ∃ o ∈ orderings .lte, compareValues a b = some o := by
  unfold atMost
  split <;> simp_all [orderings]

theorem looseEq_text (a : Cell) (s : String) :
    looseEq a.value (.str s) = true ↔ Truth.compare .eq a (some s) = .holds := by
  cases a with
  | none => exact ⟨fun h => (by cases h), fun h => (by cases h)⟩
  | some x =>
    change (x == s) = true ↔ Truth.ofBool (decide (x = s)) = .holds
    simp

/-! ## Lists -/

theorem memberOf_text (a : Cell) (ss : List String) :
    memberOf (.arr (ss.map .str)) a.value = true ↔ Truth.among a (ss.map some) = .holds := by
  induction ss with
  | nil => exact ⟨fun h => (by cases h), fun h => (by cases h)⟩
  | cons s ss ih =>
    change (looseEq a.value (.str s) || memberOf (.arr (ss.map .str)) a.value) = true
      ↔ (Truth.compare .eq a (some s)).or (Truth.among a (ss.map some)) = .holds
    rw [Bool.or_eq_true, Truth.or_eq_holds, looseEq_text, ih]

/-- Of a null, SQL does not say that it is missing from a list of values. -/
theorem nonMemberOf_text (a : Cell) {ss : List String} (hne : ss ≠ []) :
    (Truth.among a (ss.map some)).not = .holds
      ↔ nonMemberOf (.arr (ss.map .str)) a.value = true ∧ a ≠ none := by
  have hnot : nonMemberOf (.arr (ss.map .str)) a.value
      = !memberOf (.arr (ss.map .str)) a.value := rfl
  rw [hnot, Bool.not_eq_true', ← Bool.not_eq_true, memberOf_text]
  cases a with
  | none =>
    rw [Truth.among_none (by simpa using hne)]
    simp
  | some x =>
    rw [Truth.among_some]
    cases ss.contains x <;> simp [Truth.ofBool]

end Operator

/-! ## Operands -/

namespace Sql.Condition

variable {d : Dialect} {f : Field} (row : Column → Cell) {col : Column} {c : Condition}

/-- An operand for a text column is a text, if it is not null. -/
theorem operand_text {value : Json} {o : Operand} (hf : isText f = true) (hv : value.isNull = false)
    (h : operand d f value = .ok o) : ∃ s, value = .str s ∧ o.value = .str s := by
  obtain ⟨w, hw, rfl⟩ := operand_ok h
  unfold Dialect.encode at hw
  obtain ⟨stored, hstored, hw⟩ := Result.of_bind hw
  obtain ⟨name, kind, required, defaultValue, hidden, fillable⟩ := f
  cases kind <;> cases hf
  cases value <;> cases hstored <;> cases hw
  · cases hv
  · exact ⟨_, rfl, rfl⟩

theorem operands_text {items : List Json} {os : List Operand} (hf : isText f = true)
    (hitems : ∀ v ∈ items, v.isNull = false)
    (h : List.Forall₂ (fun v o => operand d f v = .ok o) items os) :
    ∃ ss : List String, items = ss.map .str ∧ os.mapM (cell? ·.value) = some (ss.map some) := by
  induction h with
  | nil => exact ⟨[], rfl, rfl⟩
  | cons hfirst _ ih =>
    obtain ⟨s, rfl, hs⟩ := operand_text hf (hitems _ List.mem_cons_self) hfirst
    obtain ⟨ss, rfl, hss⟩ := ih fun v hv => hitems v (List.mem_cons_of_mem _ hv)
    refine ⟨s :: ss, rfl, ?_⟩
    rw [List.mapM_cons, hs, hss]
    rfl

theorem comparison_text {op : Comparison} {value : Json} (hf : isText f = true)
    (hv : value.isNull = false) (h : comparison d col f op value = .ok c) :
    ∃ s, value = .str s ∧ c.truth? row = some (Truth.compare op (row col) (some s)) := by
  obtain ⟨o, ho, rfl⟩ := comparison_ok h
  obtain ⟨s, rfl, hs⟩ := operand_text hf hv ho
  exact ⟨s, rfl, by rw [truth?, hs]; rfl⟩

/-- Membership in a list of texts, or in the empty list. -/
theorem membership_text {negated : Bool} {items : List Json} (hf : isText f = true)
    (hitems : ∀ v ∈ items, v.isNull = false) (h : membership d col f negated (.arr items) = .ok c) :
    ∃ ss : List String, items = ss.map .str
      ∧ c.truth? row = some (if ss = [] then .ofBool negated
        else if negated then (Truth.among (row col) (ss.map some)).not
        else Truth.among (row col) (ss.map some)) := by
  rcases membership_ok h with ⟨rfl, hnil⟩ | ⟨os, hos, hne, rfl⟩
  · exact ⟨[], hnil, rfl⟩
  · obtain ⟨ss, hss, hcells⟩ := operands_text hf hitems hos
    refine ⟨ss, hss, ?_⟩
    have hssne : ss ≠ [] := by
      rintro rfl
      exact hne hss
    cases os with
    | nil => cases hos; exact absurd rfl hne
    | cons o os =>
      rw [truth?, hcells, if_neg hssne]
      · rfl
      · simp

end Sql.Condition

/-! ## Operators -/

namespace Operator

theorem isNull_of_isPrimitive {v : Json} (h : isPrimitive v = true) : v.isNull = false := by
  cases v <;> first | rfl | cases h

theorem isNull_of_isComparable {v : Json} (h : isComparable v = true) : v.isNull = false := by
  cases v <;> first | rfl | cases h

theorem items_of_isListOf {v : Json} (h : isListOf isPrimitive v = true) :
    ∃ items, v = .arr items ∧ ∀ item ∈ items, item.isNull = false := by
  unfold isListOf at h
  split at h
  · rename_i items
    exact ⟨items, rfl, fun item hitem => isNull_of_isPrimitive (List.all_eq_true.mp h item hitem)⟩
  · cases h

theorem bounds_of_isPairOf {v : Json} (h : isPairOf isComparable v = true) :
    ∃ low high, v = .arr [low, high] ∧ low.isNull = false ∧ high.isNull = false := by
  unfold isPairOf at h
  split at h
  · rename_i low high
    rw [Bool.and_eq_true] at h
    exact ⟨low, high, rfl, isNull_of_isComparable h.1, isNull_of_isComparable h.2⟩
  · cases h

theorem isSet_of_isFlag {v : Json} (h : isFlag v = true) : Condition.isSet v = truthy v := by
  cases v with
  | bool b => rfl
  | int n =>
    have hn : n = 0 ∨ n = 1 := by simpa [isFlag] using h
    rcases hn with rfl | rfl <;> rfl
  | _ => cases h

theorem isNull_value (a : Cell) : a.value.isNull = a.isNone := by cases a <;> rfl

/-- SQL says nothing of a null where a filter says that it is not in a list of values. -/
def Silent (key : String) (operand : Json) (a : Cell) : Prop :=
  key = "$notin" ∧ operand ≠ .arr [] ∧ a = none

/-- In a row, the condition on a column holds where the operator is satisfied and SQL is not silent. -/
def Agrees (row : Column → Cell) (col : Column) (op : Operator) (operand : Json) (c : Condition) :
    Prop :=
  ∃ t, c.truth? row = some t
    ∧ (t = .holds ↔ op.evaluate operand (row col).value = true
      ∧ ¬Silent op.key operand (row col))

variable {d : Dialect} {f : Field} (row : Column → Cell) {col : Column} {c : Condition}
  {op : Operator} {operand : Json}

theorem agrees_comparison {cmp : Comparison} (hf : Condition.isText f = true)
    (hnull : operand.isNull = false) (h : Condition.comparison d col f cmp operand = .ok c)
    (hkey : op.key ≠ "$notin")
    (heval : ∀ s, op.evaluate (.str s) (row col).value = true
      ↔ ∃ o ∈ orderings cmp, compareValues (row col).value (.str s) = some o) :
    Agrees row col op operand c := by
  obtain ⟨s, rfl, ht⟩ := Condition.comparison_text row hf hnull h
  refine ⟨_, ht, ?_⟩
  rw [compare_eq_holds, ← heval, and_iff_left fun hs => hkey hs.1]

theorem agrees_differs {o : Operand} (hf : Condition.isText f = true)
    (hnull : operand.isNull = false) (ho : Condition.operand d f operand = .ok o)
    (hkey : op.key ≠ "$notin") (heval : ∀ a, op.evaluate operand a = !looseEq a operand) :
    Agrees row col op operand (.differs col o) := by
  obtain ⟨s, rfl, hs⟩ := Condition.operand_text hf hnull ho
  refine ⟨_, by rw [Condition.truth?, hs]; rfl, ?_⟩
  rw [Truth.differs_eq_holds, and_iff_left fun hs => hkey hs.1, Ne, ← looseEq_text, heval]
  simp

theorem agrees_isNull {negated : Bool} (hkey : op.key ≠ "$notin")
    (heval : op.evaluate operand (row col).value = ((row col).value.isNull != negated)) :
    Agrees row col op operand (.isNull col negated) := by
  refine ⟨_, rfl, ?_⟩
  rw [Truth.ofBool_eq_holds, heval, isNull_value, and_iff_left fun hs => hkey hs.1]

theorem agrees_member (hf : Condition.isText f = true) (hlist : isListOf isPrimitive operand = true)
    (h : Condition.membership d col f false operand = .ok c) (hkey : op.key ≠ "$notin")
    (heval : op.evaluate = memberOf) : Agrees row col op operand c := by
  obtain ⟨items, rfl, hitems⟩ := items_of_isListOf hlist
  obtain ⟨ss, rfl, ht⟩ := Condition.membership_text row hf hitems h
  refine ⟨_, ht, ?_⟩
  rw [and_iff_left fun hs => hkey hs.1, heval, memberOf_text]
  split
  · rename_i hnil
    rw [hnil]
    rfl
  · rfl

theorem agrees_nonMember (hf : Condition.isText f = true)
    (hlist : isListOf isPrimitive operand = true)
    (h : Condition.membership d col f true operand = .ok c) (hkey : op.key = "$notin")
    (heval : op.evaluate = nonMemberOf) : Agrees row col op operand c := by
  obtain ⟨items, rfl, hitems⟩ := items_of_isListOf hlist
  obtain ⟨ss, rfl, ht⟩ := Condition.membership_text row hf hitems h
  refine ⟨_, ht, ?_⟩
  rw [heval]
  split
  · -- nothing is in the empty list, of which SQL is never silent
    rename_i hnil
    subst hnil
    exact iff_of_true rfl ⟨rfl, fun hs => hs.2.1 rfl⟩
  · rename_i hne
    refine (nonMemberOf_text _ hne).trans (and_congr_right fun _ => ?_)
    simp [Silent, hkey, hne]

theorem agrees_between {low high : Json} {o o' : Operand} (hf : Condition.isText f = true)
    (hlow : low.isNull = false) (hhigh : high.isNull = false)
    (ho : Condition.operand d f low = .ok o) (ho' : Condition.operand d f high = .ok o')
    (hkey : op.key ≠ "$notin") (heval : op.evaluate = between) :
    Agrees row col op (.arr [low, high]) (.between col o o') := by
  obtain ⟨s, rfl, hs⟩ := Condition.operand_text hf hlow ho
  obtain ⟨s', rfl, hs'⟩ := Condition.operand_text hf hhigh ho'
  refine ⟨_, by rw [Condition.truth?, hs, hs']; rfl, ?_⟩
  rw [and_iff_left fun hs => hkey hs.1, heval, Truth.within, Truth.and_eq_holds, compare_eq_holds,
    compare_eq_holds, ← atLeast_iff, ← atMost_iff, ← Bool.and_eq_true]
  rfl

theorem agrees_of_default (hf : Condition.isText f = true) (hop : op ∈ defaults)
    (hlike : op.key ≠ "$like") (haccepts : op.accepts operand = true)
    (h : Condition.ofOperator d col f op.key operand = .ok c) : Agrees row col op operand c := by
  simp only [defaults, List.mem_cons, List.not_mem_nil, or_false] at hop
  rcases hop with rfl | rfl | rfl | rfl | rfl | rfl | rfl | rfl | rfl | rfl | rfl | rfl
  · -- `$eq`
    refine agrees_comparison row hf (isNull_of_isPrimitive haccepts) h (by decide) fun s => ?_
    rw [← compare_eq_holds]
    exact looseEq_text _ _
  · -- `$ne`
    obtain ⟨o, ho, h⟩ := Result.of_bind h
    cases h
    exact agrees_differs row hf (isNull_of_isPrimitive haccepts) ho (by decide) fun _ => rfl
  · -- `$gt`
    refine agrees_comparison row hf (isNull_of_isComparable haccepts) h (by decide) fun s => ?_
    simp [orderings]
  · -- `$gte`
    exact agrees_comparison row hf (isNull_of_isComparable haccepts) h (by decide)
      fun s => atLeast_iff _ _
  · -- `$lt`
    refine agrees_comparison row hf (isNull_of_isComparable haccepts) h (by decide) fun s => ?_
    simp [orderings]
  · -- `$lte`
    exact agrees_comparison row hf (isNull_of_isComparable haccepts) h (by decide)
      fun s => atMost_iff _ _
  · -- `$isnull`
    cases h
    refine agrees_isNull row (by decide) ?_
    rw [isSet_of_isFlag haccepts]
    change (truthy operand == (row col).value.isNull) = _
    cases truthy operand <;> cases (row col).value.isNull <;> rfl
  · -- `$notnull`
    cases h
    refine agrees_isNull row (by decide) ?_
    rw [isSet_of_isFlag haccepts]
    change (truthy operand != (row col).value.isNull) = _
    cases truthy operand <;> cases (row col).value.isNull <;> rfl
  · -- `$in`
    exact agrees_member row hf haccepts h (by decide) rfl
  · -- `$notin`
    exact agrees_nonMember row hf haccepts h rfl rfl
  · -- `$between`
    obtain ⟨low, high, rfl, hlow, hhigh⟩ := bounds_of_isPairOf haccepts
    obtain ⟨o, ho, h⟩ := Result.of_bind h
    obtain ⟨o', ho', h⟩ := Result.of_bind h
    cases h
    exact agrees_between row hf hlow hhigh ho ho' (by decide) rfl
  · exact absurd rfl hlike

end Operator

/-! ## Filters -/

theorem Validator.mem_of_default {key : String} {op : Operator}
    (h : Validator.default.operator? key = some op) : op ∈ Operator.defaults ∧ op.key = key := by
  have hmem := Dict.mem_of_mem_ofList (Dict.mem_of_get? h)
  obtain ⟨other, hother, heq⟩ := List.mem_map.mp hmem
  cases heq
  exact ⟨hother, rfl⟩

/-- A stored text field resolves to its column. -/
theorem isIdentifier_of_storedField {e : Entity} {key : String} {f : Field}
    (hnames : ∀ field ∈ e.fields, Text.isIdentifier field.name = true)
    (h : e.storedField? key = some f) : Text.isIdentifier key = true := by
  have hfound := (Option.filter_eq_some_iff.mp h).1
  have heq : f.name = key := by simpa using List.find?_some hfound
  exact heq ▸ hnames f (List.mem_of_find?_eq_some hfound)

/-- The condition of a predicate on a stored field is made for the field's column. -/
theorem Sql.Condition.For.ofOperator {d : Dialect} {s : Scope} {p : String × String × Json}
    {c : Condition} {f : Field} (h : Condition.For d s p c) (hkey : Text.isIdentifier p.1 = true)
    (hf : s.entity.storedField? p.1 = some f) :
    Condition.ofOperator d (s.column p.1) f p.2.1 p.2.2 = .ok c := by
  obtain ⟨col, field, hresolve, hop⟩ := h
  unfold Scope.resolve Scope.storedField at hresolve
  rw [Text.splitDot_of_isIdentifier hkey, hf] at hresolve
  cases hresolve
  exact hop

theorem Sql.bare_of_isText {d : Dialect} {f : Field} (hf : Condition.isText f = true) :
    Bare d (some f) := by
  intro n
  obtain ⟨name, kind, required, defaultValue, hidden, fillable⟩ := f
  cases kind <;> cases hf
  cases d with
  | sqlite => rfl
  | postgresql =>
    simp [Dialect.placeholder, Dialect.cast]
    rfl

theorem Sql.bare_none (d : Dialect) : Bare d none := by
  intro n
  cases d with
  | sqlite => rfl
  | postgresql =>
    simp [Dialect.placeholder]
    rfl

/-- The cells of a row: a column has the text or null that the row gives to its name. -/
def rowCells (row : Dict Json) (c : Column) : Cell := ((Dict.get? row c.name).bind cell?).getD none

variable {d : Dialect} {s : Scope}

/-- The truth of conditions joined by AND, from the truth of each. -/
theorem truth_of_conditions (cells : Column → Cell) {ps : List (String × String × Json)}
    {cs : List Condition} {Good : String × String × Json → Prop} (h : List.Forall₂ (Condition.For d s) ps cs)
    (heach : ∀ p ∈ ps, ∀ c, Condition.For d s p c →
      ∃ t, c.truth? cells = some t ∧ (t = .holds ↔ Good p)) :
    ∃ ts, cs.mapM (Condition.truth? cells) = some ts
      ∧ (Truth.all ts = .holds ↔ ∀ p ∈ ps, Good p) := by
  induction h with
  | nil => exact ⟨[], rfl, by simp [Truth.all]⟩
  | @cons p c ps cs hfirst _ ih =>
    obtain ⟨t, ht, hgood⟩ := heach p List.mem_cons_self c hfirst
    obtain ⟨ts, hts, hall⟩ := ih fun q hq => heach q (List.mem_cons_of_mem _ hq)
    refine ⟨t :: ts, by rw [List.mapM_cons, ht, hts]; rfl, ?_⟩
    change t.and (Truth.all ts) = .holds ↔ _
    rw [Truth.and_eq_holds, hgood, hall, List.forall_mem_cons]

/-- The truth of the condition of one predicate on a text field. -/
theorem truth_of_predicate {p : String × String × Json} {c : Condition} {field : Field}
    {row : Dict Json} {a : Cell} (hkey : Text.isIdentifier p.1 = true)
    (hstored : s.entity.storedField? p.1 = some field) (htext : Condition.isText field = true)
    (hadmits : Validator.default.Admits p.2) (hlike : p.2.1 ≠ "$like")
    (ha : Dict.get? row p.1 = some a.value) (h : Condition.For d s p c) :
    ∃ t, c.truth? (rowCells row) = some t
      ∧ (t = .holds ↔ Validator.default.satisfies (Validator.valueAt (.obj row) p.1) p.2 = true
        ∧ ¬(p.2.1 = "$notin" ∧ p.2.2 ≠ .arr [] ∧ Dict.get? row p.1 = some .null)) := by
  obtain ⟨op, hoperator, haccepts⟩ := hadmits
  obtain ⟨hdefault, hop⟩ := Validator.mem_of_default hoperator
  have hcell : rowCells row (s.column p.1) = a := by
    change ((Dict.get? row p.1).bind cell?).getD none = a
    rw [ha, Option.bind_some, cell?_value, Option.getD_some]
  have hcondition := h.ofOperator hkey hstored
  rw [← hop] at hcondition
  obtain ⟨t, ht, hiff⟩ := Operator.agrees_of_default (rowCells row) htext hdefault (hop ▸ hlike)
    haccepts hcondition
  refine ⟨t, ht, hiff.trans ?_⟩
  have hsatisfies : Validator.default.satisfies a.value p.2 = op.evaluate p.2.2 a.value := by
    unfold Validator.satisfies
    rw [hoperator]
  rw [hcell, hop, Validator.valueAt_of_isIdentifier hkey ha, hsatisfies, ha, Option.some.injEq,
    Cell.value_eq_null]
  rfl

/-- The operands of the conditions on text fields have bare placeholders. -/
theorem bare_of_for {p : String × String × Json} {c : Condition} {field : Field}
    (hkey : Text.isIdentifier p.1 = true) (hstored : s.entity.storedField? p.1 = some field)
    (htext : Condition.isText field = true) (h : Condition.For d s p c) :
    ∀ o ∈ c.operands, Bare d o.field := by
  intro o ho
  rcases (Condition.parts_of_ofOperator (h.ofOperator hkey hstored)).2 o ho with hf | hf <;> rw [hf]
  · exact bare_of_isText htext
  · exact bare_none d

/-- For rows with texts and nulls, the WHERE clause of a converted filter keeps exactly the rows that
the validator accepts, except where the filter asks that a null be in no list of values: such a row
is accepted, and SQL does not keep it. The clause is read from its text and the values bound for the
statement, some of which may come before its own. -/
theorem where_keeps_accepted_rows (d : Dialect) (s : Scope) (before : List Json)
    {input : FilterInput} {f : Filter} {cs : List Condition} {row : Dict Json}
    (hnames : ∀ field ∈ s.entity.fields, Text.isIdentifier field.name = true)
    (hconvert : Validator.default.convert input = .ok f)
    (hfields : ∀ p ∈ f.predicates, ∃ field, s.entity.storedField? p.1 = some field
      ∧ Condition.isText field = true)
    (hlike : ∀ p ∈ f.predicates, p.2.1 ≠ "$like")
    (hrow : ∀ p ∈ f.predicates, ∃ a : Cell, Dict.get? row p.1 = some a.value)
    (hbuilds : Condition.ofFilter d s f = .ok cs) :
    let (text, bound) := (Condition.whereText d cs).on before
    ∃ t, readWhere (rowCells row) (lex bound before.length text.toList) = some t
      ∧ (t = .holds ↔ Validator.default.holds f (.obj row) = true
        ∧ ¬∃ p ∈ f.predicates, p.2.1 = "$notin" ∧ p.2.2 ≠ .arr []
          ∧ Dict.get? row p.1 = some .null) := by
  have hpredicates := Condition.ofFilter_predicates hbuilds
  have hbare : ∀ c ∈ cs, ∀ o ∈ c.operands, Bare d o.field := by
    intro c hc
    obtain ⟨p, hp, hfor⟩ := Result.exists_of_mem_right hpredicates hc
    obtain ⟨field, hstored, htext⟩ := hfields p hp
    exact bare_of_for (isIdentifier_of_storedField hnames hstored) hstored htext hfor
  obtain ⟨ts, hts, hall⟩ := truth_of_conditions (rowCells row) hpredicates
    fun p hp c hfor => by
      obtain ⟨field, hstored, htext⟩ := hfields p hp
      obtain ⟨a, ha⟩ := hrow p hp
      exact truth_of_predicate (isIdentifier_of_storedField hnames hstored) hstored htext
        (Validator.admits_of_convert hconvert p hp) (hlike p hp) ha hfor
  refine ⟨_, readWhere_text hts hbare before, hall.trans ?_⟩
  rw [Validator.holds_iff]
  constructor
  · intro h
    exact ⟨fun p hp => (h p hp).1, fun ⟨p, hp, hsilent⟩ => (h p hp).2 hsilent⟩
  · rintro ⟨hsatisfied, hsilent⟩ p hp
    exact ⟨hsatisfied p hp, fun h => hsilent ⟨p, hp, h⟩⟩

theorem where_keeps_accepted_rows_named :
    let input : FilterInput := [("name", some (.obj [("$gte", .str "Ada"), ("$ne", .str "Eve")]))]
    let f : Filter := [("name", [("$gte", .str "Ada"), ("$ne", .str "Eve")])]
    let row : Dict Json := [("id", .int 1), ("name", .str "Bob")]
    Validator.default.convert input = .ok f
      ∧ ∃ cs t, Condition.ofFilter .postgresql (.of Catalog.authors) f = .ok cs
        ∧ readWhere (rowCells row) (lex ((Condition.whereText .postgresql cs).on [.int 7]).2 1
          ((Condition.whereText .postgresql cs).on [.int 7]).1.toList) = some t
        ∧ (t = .holds ↔ Validator.default.holds f (.obj row) = true
          ∧ ¬∃ p ∈ f.predicates, p.2.1 = "$notin" ∧ p.2.2 ≠ .arr []
            ∧ Dict.get? row p.1 = some .null) := by
  intro input f row
  have hbuilds : ∃ cs, Condition.ofFilter .postgresql (.of Catalog.authors) f = .ok cs := ⟨_, rfl⟩
  obtain ⟨cs, hbuilds⟩ := hbuilds
  have hconvert : Validator.default.convert input = .ok f := rfl
  have hpredicates : ∀ p ∈ f.predicates, p.1 = "name" ∧ p.2.1 ≠ "$like" := by
    simp [f, Filter.predicates]
  have hrow : ∀ p ∈ f.predicates, ∃ a : Cell, Dict.get? row p.1 = some a.value := by
    intro p hp
    rw [(hpredicates p hp).1]
    exact ⟨some "Bob", rfl⟩
  have hfields : ∀ p ∈ f.predicates, ∃ field, Catalog.authors.storedField? p.1 = some field
      ∧ Condition.isText field = true := by
    intro p hp
    rw [(hpredicates p hp).1]
    exact ⟨.text "name", rfl, rfl⟩
  obtain ⟨t, h⟩ := where_keeps_accepted_rows .postgresql (.of Catalog.authors) [.int 7] (by decide)
    hconvert hfields (fun p hp => (hpredicates p hp).2) hrow hbuilds
  exact ⟨hconvert, cs, t, hbuilds, h⟩

/-- Where a name is null, that it is none of some names is accepted, and unknown to SQL. -/
theorem null_is_in_no_list :
    let f : Filter := [("name", [("$notin", .arr [.str "Ada"])])]
    let row : Dict Json := [("id", .int 1), ("name", .null)]
    Validator.default.convert [("name", some (.obj [("$notin", .arr [.str "Ada"])]))] = .ok f
      ∧ Validator.default.holds f (.obj row) = true
      ∧ ∃ cs, Condition.ofFilter .sqlite (.of Catalog.authors) f = .ok cs
        ∧ (Condition.whereText .sqlite cs).on [] = (" WHERE \"name\" NOT IN (?)", [.str "Ada"])
        ∧ readWhere (rowCells row) (lex [.str "Ada"] 0 " WHERE \"name\" NOT IN (?)".toList)
          = some .unknown :=
  ⟨rfl, rfl, _, rfl, rfl, rfl⟩

end EntityMapper
