import EntityMapper.Document
import EntityMapper.Proofs.Dict

/-!
# Documents that were written

An object that was put together of members gives each of them back, so what a reader makes of the
object only depends on what it makes of each member.
-/

namespace EntityMapper.Document

variable {members : List (String × Option Json)}

/-- The members that are there. -/
def present (members : List (String × Option Json)) : List (String × Json) :=
  members.filterMap fun (name, value) => value.map (name, ·)

theorem names_present : ((present members).map Prod.fst).Sublist (members.map Prod.fst) := by
  induction members with
  | nil => exact .slnil
  | cons entry rest ih =>
    obtain ⟨name, value⟩ := entry
    cases value with
    | none => exact ih.cons name
    | some j => exact ih.cons_cons name

theorem get?_present (h : (members.map Prod.fst).Nodup) (key : String) :
    Dict.get? (present members) key = (Dict.get? members key).join := by
  induction members with
  | nil => rfl
  | cons entry rest ih =>
    obtain ⟨name, value⟩ := entry
    rw [List.map_cons, List.nodup_cons] at h
    have ih := ih h.2
    rw [Dict.get?_cons]
    cases value with
    | some j =>
      change Dict.get? ((name, j) :: present rest) key = _
      rw [Dict.get?_cons, ih]
      split <;> rfl
    | none =>
      change Dict.get? (present rest) key = _
      split
      · rename_i hname
        -- The name has no other member, so none is found in its place.
        have habsent : key ∉ (present rest).map Prod.fst :=
          fun hmem => h.1 (hname ▸ names_present.subset hmem)
        rw [Dict.get?_eq_none habsent]
        rfl
      · exact ih

/-- Each member of an object is found again under its name. -/
theorem get?_objectOf (h : (members.map Prod.fst).Nodup) :
    ∃ doc, objectOf members = .obj doc
      ∧ ∀ name, Dict.get? doc name = (Dict.get? members name).join := by
  refine ⟨Dict.ofList (present members), rfl, fun name => ?_⟩
  have hpresent : ((present members).map Prod.fst).Nodup := h.sublist names_present
  rw [Dict.get?_ofList_of_nodup hpresent, get?_present h]

theorem record?_objectOf (h : (members.map Prod.fst).Nodup) (names : List String) :
    record? names (objectOf members)
      = some (names.map fun name => (Dict.get? members name).join) := by
  obtain ⟨doc, hdoc, hget⟩ := get?_objectOf h
  rw [hdoc]
  exact congrArg some (List.map_congr_left fun name _ => hget name)

/-! ## Readers -/

theorem nullable?_eq {α : Type} {read : Json → Option α} {j : Json} (h : j.isNull = false) :
    nullable? read j = (read j).map some := by
  cases j with
  | null => cases h
  | _ => rfl

/-- A member that is left out where there is no value and is not null where there is one. -/
theorem optional?_map {α : Type} {read : Json → Option α} {write : α → Json} {value : Option α}
    (h : ∀ a ∈ value, (write a).isNull = false ∧ read (write a) = some a) :
    optional? read (value.map write) = some value := by
  cases value with
  | none => rfl
  | some a =>
    obtain ⟨hnull, hread⟩ := h a rfl
    change nullable? read (write a) = some (some a)
    rw [nullable?_eq hnull, hread]
    rfl

/-- A value that was read of a member that may be absent or null stands there. -/
theorem exists_of_optional? {α : Type} {read : Json → Option α} {part : Option Json}
    {value : Option α} (h : optional? read part = some value) :
    ∀ a ∈ value, ∃ j, j.isNull = false ∧ read j = some a := by
  intro a ha
  cases part with
  | none =>
    cases h
    cases ha
  | some j =>
    change nullable? read j = some value at h
    cases hnull : j.isNull with
    | true =>
      cases j <;> cases hnull
      cases h
      cases ha
    | false =>
      rw [nullable?_eq hnull] at h
      obtain ⟨b, hb, rfl⟩ := Option.map_eq_some_iff.mp h
      cases ha
      exact ⟨j, hnull, hb⟩

theorem optional?_text (s : Option String) : optional? text? (s.map .str) = some s :=
  optional?_map fun _ _ => ⟨rfl, rfl⟩

theorem optional?_count {limit : Option Nat} (h : ∀ n ∈ limit, n ≤ maxCount) :
    optional? count? (limit.map fun n : Nat => .int n) = some limit :=
  optional?_map fun n hn => ⟨rfl, by simp [count?, Json.natUpTo?, h n hn]⟩

theorem optional?_value {value : Option Json} (h : ∀ j ∈ value, j.isNull = false) :
    optional? some value = some value := by
  have hread : optional? some (value.map id) = some value :=
    optional?_map fun j hj => ⟨h j hj, rfl⟩
  rwa [Option.map_id_fun] at hread

theorem le_of_optional?_count {part : Option Json} {limit : Option Nat}
    (h : optional? count? part = some limit) : ∀ n ∈ limit, n ≤ maxCount := by
  intro n hn
  obtain ⟨j, -, hread⟩ := exists_of_optional? h n hn
  unfold count? Json.natUpTo? at hread
  split at hread
  · split at hread
    · cases hread
      omega
    · cases hread
  · cases hread

theorem list?_map {α : Type} {read : Json → Option α} {write : α → Json} {values : List α}
    (h : ∀ a ∈ values, read (write a) = some a) :
    list? read (.arr (values.map write)) = some values := by
  change (values.map write).mapM read = some values
  induction values with
  | nil => rfl
  | cons a rest ih =>
    obtain ⟨ha, hrest⟩ := List.forall_mem_cons.mp h
    rw [List.map_cons, List.mapM_cons, ha, ih hrest]
    rfl

/-- The items of a list that was read were all read. -/
theorem exists_of_list? {α : Type} {read : Json → Option α} {j : Json} {values : List α}
    (h : list? read j = some values) : ∀ a ∈ values, ∃ item, read item = some a := by
  unfold list? at h
  split at h
  · rename_i items
    induction items generalizing values with
    | nil =>
      cases h
      simp
    | cons item rest ih =>
      simp only [List.mapM_cons, Option.bind_eq_bind, Option.bind_eq_some_iff] at h
      obtain ⟨a, ha, others, hothers, h⟩ := h
      cases h
      exact List.forall_mem_cons.mpr ⟨⟨item, ha⟩, ih hothers⟩
  · cases h

end EntityMapper.Document
