import EntityMapper.Field.Document
import EntityMapper.Proofs.Document

/-!
# Fields as documents

A field that a document can tell is read back from its own document: its name and flags, the rules of
its kind and its default value. Every field that was read from a document is such a field.
-/

namespace EntityMapper

open Document

@[simp] theorem KeyFormat.read_name (isUnit : Json → Bool) (format : KeyFormat) :
    choiceOf? isUnit KeyFormat.alternatives (.str format.name) = some format := by
  cases format <;> rfl

@[simp] theorem ReferentialAction.read_name (isUnit : Json → Bool) (action : ReferentialAction) :
    choiceOf? isUnit ReferentialAction.alternatives (.str action.name) = some action := by
  cases action <;> rfl

namespace Field

/-- What a document can tell: lengths fit 32 bits, limits are finite, and the default value is not
null, which would be read as none. -/
structure Expressible (f : Field) : Prop where
  lengths : ∀ most least pattern, f.kind = .text most least pattern →
    ∀ n, n ∈ most ∨ n ∈ least → n ≤ maxCount
  limits : ∀ minimum maximum, f.kind = .number minimum maximum →
    ∀ x, x ∈ minimum ∨ x ∈ maximum → ∃ y, x = .finite y
  notNull : ∀ j ∈ f.defaultValue, j.isNull = false

def members (f : Field) : List (String × Option Json) :=
  [("name", some (.str f.name)), ("type", some (.str f.typeName)),
    ("required", some (.bool f.required)), ("default_value", f.defaultValue),
    ("hidden", some (.bool f.hidden)), ("fillable", some (.bool f.fillable))]
    ++ kindMembers f.kind

variable {f : Field} {doc : Dict Json}

theorem nodup_members (f : Field) : (f.members.map Prod.fst).Nodup := by
  unfold members kindMembers
  cases f.kind <;> simp

/-! ## Written and read -/

theorem kindMembers_text (most least : Option Nat) (pattern : Option String) :
    kindMembers (.text most least pattern)
      = [("max_length", most.map fun n : Nat => .int n),
        ("min_length", least.map fun n : Nat => .int n), ("pattern", pattern.map .str)] := by
  cases most <;> cases least <;> rfl

theorem optional?_limit {limit : Option Double.Extended} (h : ∀ x ∈ limit, ∃ y, x = .finite y) :
    optional? limit? (limit.map limitJson) = some limit :=
  optional?_map fun x hx => by
    obtain ⟨y, rfl⟩ := h x hx
    exact ⟨rfl, rfl⟩

theorem readKind?_of_members (hf : f.Expressible)
    (hdoc : ∀ name, Dict.get? doc name = (Dict.get? f.members name).join) :
    readKind? doc = some f.kind := by
  unfold readKind?
  cases hkind : f.kind with
  | text most least pattern =>
    have hmost := optional?_count fun n hn => hf.lengths _ _ _ hkind n (.inl hn)
    have hleast := optional?_count fun n hn => hf.lengths _ _ _ hkind n (.inr hn)
    simp [hdoc, members, hkind, kindMembers_text, Dict.get?, typeName, readTypeName?, typeNames,
      hmost, hleast, optional?_text]
  | number minimum maximum =>
    have hminimum := optional?_limit fun x hx => hf.limits _ _ hkind x (.inl hx)
    have hmaximum := optional?_limit fun x hx => hf.limits _ _ hkind x (.inr hx)
    simp [hdoc, members, hkind, kindMembers, Dict.get?, typeName, readTypeName?, typeNames, hminimum,
      hmaximum]
  | primary format handler =>
    simp [hdoc, members, hkind, kindMembers, Dict.get?, typeName, readTypeName?, typeNames,
      withDefault?, optional?_text]
  | relation key =>
    simp [hdoc, members, hkind, kindMembers, Dict.get?, typeName, readTypeName?, typeNames,
      withDefault?, required?, text?, Json.str?]
  | _ => simp [hdoc, members, hkind, kindMembers, Dict.get?, typeName, readTypeName?, typeNames]

theorem ofJson?_toJson (hf : f.Expressible) : ofJson? f.toJson = some f := by
  obtain ⟨doc, hdoc, hget⟩ := get?_objectOf f.nodup_members
  have hjson : f.toJson = .obj doc := hdoc
  have hkind := readKind?_of_members hf hget
  have hdefault := optional?_value hf.notNull
  rw [hjson]
  simp [ofJson?, hkind, hget, members, Dict.get?, required?, text?, Json.str?, withDefault?, flag?,
    hdefault]

/-! ## Read and written -/

theorem lengths_of_readKind? {most least : Option Nat} {pattern : Option String}
    (h : readKind? doc = some (.text most least pattern)) :
    ∀ n, n ∈ most ∨ n ∈ least → n ≤ maxCount := by
  unfold readKind? at h
  simp only [Option.bind_eq_bind, Option.bind_eq_some_iff] at h
  obtain ⟨_, -, name, -, h⟩ := h
  split at h
  · simp only [Option.bind_eq_some_iff] at h
    obtain ⟨_, hmost, _, hleast, _, -, h⟩ := h
    cases h
    rintro n (hn | hn)
    · exact le_of_optional?_count hmost n hn
    · exact le_of_optional?_count hleast n hn
  all_goals simp [Option.bind_eq_some_iff] at h

theorem finite_of_optional?_limit {part : Option Json} {limit : Option Double.Extended}
    (h : optional? limit? part = some limit) : ∀ x ∈ limit, ∃ y, x = .finite y := by
  intro x hx
  obtain ⟨j, -, hread⟩ := exists_of_optional? h x hx
  obtain ⟨y, -, rfl⟩ := Option.map_eq_some_iff.mp hread
  exact ⟨y, rfl⟩

theorem limits_of_readKind? {minimum maximum : Option Double.Extended}
    (h : readKind? doc = some (.number minimum maximum)) :
    ∀ x, x ∈ minimum ∨ x ∈ maximum → ∃ y, x = .finite y := by
  unfold readKind? at h
  simp only [Option.bind_eq_bind, Option.bind_eq_some_iff] at h
  obtain ⟨_, -, name, -, h⟩ := h
  split at h
  case h_2 =>
    simp only [Option.bind_eq_some_iff] at h
    obtain ⟨_, hminimum, _, hmaximum, h⟩ := h
    cases h
    rintro x (hx | hx)
    · exact finite_of_optional?_limit hminimum x hx
    · exact finite_of_optional?_limit hmaximum x hx
  all_goals simp [Option.bind_eq_some_iff] at h

theorem expressible_of_ofJson? {j : Json} (h : ofJson? j = some f) : f.Expressible := by
  unfold ofJson? at h
  split at h
  · simp only [Option.bind_eq_bind, Option.bind_eq_some_iff] at h
    obtain ⟨_, -, kind, hkind, _, -, value, hvalue, _, -, _, -, h⟩ := h
    cases h
    constructor
    · rintro most least pattern rfl
      exact lengths_of_readKind? hkind
    · rintro minimum maximum rfl
      exact limits_of_readKind? hkind
    · intro j hj
      obtain ⟨_, hnull, hread⟩ := exists_of_optional? hvalue j hj
      cases hread
      exact hnull
  · cases h

end Field
end EntityMapper
