import EntityMapper.Sql.Condition

/-!
# The truth of conditions

SQL has three truth values. A comparison with null is unknown, and so is what depends on it; a row is
kept only where its condition holds. Text is compared code point by code point.
-/

namespace EntityMapper.Sql

inductive Truth where
  | holds
  | fails
  | unknown
deriving DecidableEq, Repr

/-- A text, or null. -/
abbrev Cell := Option String

namespace Truth

def ofBool (b : Bool) : Truth := if b then holds else fails

def not : Truth → Truth
  | holds => fails
  | fails => holds
  | unknown => unknown

def and : Truth → Truth → Truth
  | holds, t => t
  | fails, _ => fails
  | unknown, fails => fails
  | unknown, _ => unknown

def or : Truth → Truth → Truth
  | holds, _ => holds
  | fails, t => t
  | unknown, holds => holds
  | unknown, _ => unknown

def test (op : Comparison) (a b : String) : Bool :=
  match op with
  | .eq => a = b
  | .gt => b < a
  | .gte => b < a ∨ a = b
  | .lt => a < b
  | .lte => a < b ∨ a = b

def compare (op : Comparison) (a b : Cell) : Truth :=
  match a, b with
  | some a, some b => ofBool (test op a b)
  | _, _ => unknown

/-- Whether a cell equals one of several. -/
def among (a : Cell) (bs : List Cell) : Truth := bs.foldr (fun b t => (compare .eq a b).or t) fails

def within (a low high : Cell) : Truth := (compare .gte a low).and (compare .lte a high)

def all (ts : List Truth) : Truth := ts.foldr and holds

variable {t u : Truth}

@[simp] theorem ofBool_eq_holds {b : Bool} : ofBool b = holds ↔ b = true := by cases b <;> simp [ofBool]

@[simp] theorem and_holds : t.and holds = t := by cases t <;> rfl

@[simp] theorem and_eq_holds : t.and u = holds ↔ t = holds ∧ u = holds := by
  cases t <;> cases u <;> simp [and]

@[simp] theorem or_eq_holds : t.or u = holds ↔ t = holds ∨ u = holds := by
  cases t <;> cases u <;> simp [or]

@[simp] theorem not_eq_holds : t.not = holds ↔ t = fails := by cases t <;> simp [not]

@[simp] theorem compare_none (op : Comparison) (b : Cell) : compare op none b = unknown := rfl

@[simp] theorem compare_some (op : Comparison) (a b : String) :
    compare op (some a) (some b) = ofBool (test op a b) := rfl

/-- What differs from a text or is null is all that does not equal the text. -/
theorem differs_eq_holds (a : Cell) (s : String) :
    (compare .eq a (some s)).not.or (ofBool a.isNone) = holds ↔ compare .eq a (some s) ≠ holds := by
  cases a with
  | none => simp [ofBool]
  | some x =>
    rw [compare_some]
    cases test .eq x s <;> simp [ofBool, not, or]

/-- No null is found among any cells, nor is it known to be missing among some. -/
theorem among_none {bs : List Cell} (h : bs ≠ []) : among none bs = unknown := by
  induction bs with
  | nil => exact absurd rfl h
  | cons b bs ih =>
    cases bs with
    | nil => rfl
    | cons c cs =>
      have := ih (by simp)
      simp only [among, List.foldr_cons] at this ⊢
      rw [this]
      rfl

theorem among_some (a : String) (bs : List String) :
    among (some a) (bs.map some) = ofBool (bs.contains a) := by
  induction bs with
  | nil => rfl
  | cons b bs ih =>
    have hcons : among (some a) ((b :: bs).map some)
        = (ofBool (test .eq a b)).or (among (some a) (bs.map some)) := rfl
    rw [hcons, ih, List.contains_cons]
    by_cases hab : a = b <;> by_cases ha : a ∈ bs <;> simp [test, hab, ha, ofBool, or]

end Truth

/-- The cell of a value; values other than text and null are none. -/
def cell? : Json → Option Cell
  | .null => some none
  | .str s => some (some s)
  | _ => none

/-- The truth of a condition in a row, where its values are cells. SQL has no lists without items;
patterns are left out. -/
def Condition.truth? (row : Column → Cell) : Condition → Option Truth
  | compare c op o => (cell? o.value).map (Truth.compare op (row c))
  | differs c o => (cell? o.value).map fun v =>
      (Truth.compare .eq (row c) v).not.or (.ofBool (row c).isNone)
  | isNull c negated => some (.ofBool ((row c).isNone != negated))
  | member _ _ [] => none
  | member c negated os => (os.mapM (cell? ·.value)).map fun vs =>
      if negated then (Truth.among (row c) vs).not else Truth.among (row c) vs
  | constant truth => some (.ofBool truth)
  | between c low high => do
    return Truth.within (row c) (← cell? low.value) (← cell? high.value)
  | like _ _ _ => none

end EntityMapper.Sql
