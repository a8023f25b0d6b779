import EntityMapper.Entity.Document
import EntityMapper.Proofs.Binding
import EntityMapper.Proofs.Entity.Extends
import EntityMapper.Proofs.Entity.Named
import EntityMapper.Proofs.Entity.Primary
import EntityMapper.Proofs.Field.Document
import Mathlib.Data.List.Nodup

/-!
# Entities as documents

Reading the document of an entity declares the entity again. A declaration leaves nothing to be done
a second time: no field is repeated and one is primary, so all of them are taken as they are.
-/

namespace EntityMapper

open Document

theorem EntityConfig.ofJson?_toJson (c : EntityConfig) : ofJson? c.toJson = some c := by
  unfold ofJson? toJson
  rw [record?_objectOf (by simp)]
  have hformat : choice? KeyFormat.alternatives (.str c.primaryFormat.name) = some c.primaryFormat :=
    KeyFormat.read_name _ _
  simp [Dict.get?, optional?_text, withDefault?, hformat]

namespace Entity

variable {e e' : Entity} {f : Field} {given fields : List Field} {name : String} {config : EntityConfig}

/-! ## Declaring again -/

/-- What a declaration has seen to. -/
structure Settled (e : Entity) : Prop where
  identifier : Text.isIdentifier e.name = true
  named : NamedFields e.fields
  keyedOnce : KeyedOnce e.fields
  handler : e.primaryFormat ≠ (.custom, none)

theorem declare_checked (h : declare name given config = .ok e) :
    Text.isIdentifier e.name = true ∧ e.primaryFormat ≠ (.custom, none) := by
  obtain ⟨hname, -, hsame, -, hhandler⟩ := declare_iff.mp h
  rw [hsame]
  exact ⟨hname, hhandler⟩

theorem primaryFormat_setFieldHidden {field : String} {hidden : Bool}
    (h : e.setFieldHidden field hidden = .ok e') : e'.primaryFormat = e.primaryFormat := by
  unfold primaryFormat
  rw [(extends_setFieldHidden h).primaryKind]

theorem Declared.settled (h : e.Declared) : e.Settled := by
  refine ⟨?_, h.of_kept kept_named, h.of_kept kept_keyedOnce, ?_⟩
  · induction h with
    | declare h => exact (declare_checked h).1
    | setFieldHidden _ h ih =>
      rw [(setFieldHidden_cases h).1]
      exact ih
  · induction h with
    | declare h => exact (declare_checked h).2
    | setFieldHidden _ h ih =>
      rw [primaryFormat_setFieldHidden h]
      exact ih

theorem appendField_of_new (h : New fields f) :
    appendField name fields f = .ok (fields ++ [f]) := by
  unfold appendField checkIdentifier
  rw [if_pos h.identifier, h.name]
  cases hprimary : f.isPrimary with
  | false => rfl
  | true =>
    rw [h.primary hprimary]
    rfl

theorem new_of_settled {rest : List Field} (hnamed : NamedFields (fields ++ f :: rest))
    (honce : KeyedOnce (fields ++ f :: rest)) : New fields f := by
  refine ⟨hnamed.identifiers f (by simp), ?_, fun hprimary => ?_⟩
  · have hdistinct := hnamed.distinct
    rw [List.map_append, List.map_cons, List.nodup_middle, List.nodup_cons] at hdistinct
    rw [List.find?_eq_none]
    intro g hg hname
    have hmem : f.name ∈ fields.map (·.name) := by
      rw [← eq_of_beq hname]
      exact List.mem_map_of_mem hg
    exact hdistinct.1 (List.mem_append_left _ hmem)
  · unfold KeyedOnce at honce
    rw [List.filter_append, List.filter_cons_of_pos hprimary, List.length_append,
      List.length_cons] at honce
    have hnone : fields.filter Field.isPrimary = [] := List.eq_nil_of_length_eq_zero (by omega)
    rw [List.find?_eq_none]
    exact List.filter_eq_nil_iff.mp hnone

/-- Fields of which none is repeated are all taken. -/
theorem foldlM_appendField {rest : List Field} (hnamed : NamedFields (fields ++ rest))
    (honce : KeyedOnce (fields ++ rest)) :
    rest.foldlM (appendField name) fields = .ok (fields ++ rest) := by
  induction rest generalizing fields with
  | nil =>
    rw [List.append_nil]
    rfl
  | cons f rest ih =>
    have happend : fields ++ f :: rest = (fields ++ [f]) ++ rest := by simp
    rw [List.foldlM_cons, appendField_of_new (new_of_settled hnamed honce)]
    rw [happend] at hnamed honce ⊢
    exact ih hnamed honce

theorem declare_of_settled (h : e.Settled) : declare e.name e.fields e.config = .ok e :=
  declare_iff.mpr ⟨h.identifier,
    ⟨e.fields, foldlM_appendField h.named h.keyedOnce, dif_pos e.hasPrimary⟩, rfl, rfl, h.handler⟩

/-! ## Fields that documents can tell -/

theorem mem_withPrimary {keyed : KeyedFields} (h : withPrimary name config fields = .ok keyed)
    (hf : f ∈ keyed.val) : f ∈ fields ∨ f.isPrimary ∧ f.defaultValue = none := by
  unfold withPrimary at h
  split at h
  · cases h
    exact .inl hf
  · split at h
    · cases h
    · dsimp only at h
      split at h
      · cases h
      · cases h
        rcases List.mem_cons.mp hf with rfl | hf
        · exact .inr ⟨rfl, rfl⟩
        · exact .inl hf

theorem mem_declare (h : declare name given config = .ok e) (hf : f ∈ e.fields) :
    f ∈ given ∨ f.isPrimary ∧ f.defaultValue = none := by
  obtain ⟨distinct, keyed, hdistinct, hkeyed, -, hfields⟩ := declare_cases h
  rw [hfields] at hf
  exact (mem_withPrimary hkeyed hf).imp_left (mem_given hdistinct)

theorem expressible_of_declare (h : declare name given config = .ok e)
    (hgiven : ∀ f ∈ given, f.Expressible) : ∀ f ∈ e.fields, f.Expressible := by
  intro f hf
  rcases mem_declare h hf with hf | ⟨hprimary, hdefault⟩
  · exact hgiven f hf
  · unfold Field.isPrimary at hprimary
    refine ⟨fun most least pattern hkind => ?_, fun minimum maximum hkind => ?_, by simp [hdefault]⟩
    · rw [hkind] at hprimary
      cases hprimary
    · rw [hkind] at hprimary
      cases hprimary

theorem expressible_hide (hf : f.Expressible) (field : String) (hidden : Bool) :
    (hide field hidden f).Expressible := by
  unfold hide
  split
  · exact ⟨hf.lengths, hf.limits, hf.notNull⟩
  · exact hf

theorem expressible_of_list? {part : Option Json}
    (h : withDefault? [] (list? Field.ofJson?) part = some fields) : ∀ f ∈ fields, f.Expressible := by
  cases part with
  | none =>
    cases h
    simp
  | some j =>
    intro f hf
    obtain ⟨item, hitem⟩ := exists_of_list? h f hf
    exact Field.expressible_of_ofJson? hitem

/-- The entity was read from a document or put together by a draft of fields that documents can tell;
since then its fields may have been hidden and shown. -/
inductive Documented : Entity → Prop where
  | read {doc : Json} {e : Entity} : Entity.ofJson doc = .ok e → Documented e
  | build {d : Draft} {r : Registry} {e : Entity} :
    (∀ f ∈ d.fields, f.Expressible) → ((Binding.build d).on r).1 = .ok e → Documented e
  | setFieldHidden {e e' : Entity} {field : String} {hidden : Bool} :
    Documented e → e.setFieldHidden field hidden = .ok e' → Documented e'

theorem declare_of_build {d : Draft} {r : Registry} (h : ((Binding.build d).on r).1 = .ok e) :
    ∃ config, declare d.name d.fields config = .ok e := by
  rw [Binding.on_build] at h
  cases hbuild : r.build d with
  | error fault =>
    rw [hbuild] at h
    cases h
  | ok built =>
    rw [hbuild] at h
    cases h
    unfold Registry.build at hbuild
    split at hbuild
    · obtain ⟨_, hdeclare, hbuild⟩ := Result.of_bind hbuild
      cases hbuild
      exact ⟨_, hdeclare⟩
    · obtain ⟨_, hdeclare, hbuild⟩ := Result.of_bind hbuild
      obtain ⟨_, -, hbuild⟩ := Result.of_bind hbuild
      cases hbuild
      exact ⟨_, hdeclare⟩

theorem declare_of_ofJson {doc : Json} (h : ofJson doc = .ok e) :
    ∃ name given config, (∀ f ∈ given, f.Expressible) ∧ declare name given config = .ok e := by
  unfold ofJson at h
  split at h
  · cases h
  · rename_i name given config hparts
    refine ⟨name, given, config, ?_, h⟩
    unfold readParts? at hparts
    simp only [Option.bind_eq_bind, Option.bind_eq_some_iff] at hparts
    obtain ⟨parts, -, hparts⟩ := hparts
    split at hparts
    · simp only [Option.bind_eq_some_iff] at hparts
      obtain ⟨_, -, _, hfields, _, -, hparts⟩ := hparts
      cases hparts
      exact expressible_of_list? hfields
    · cases hparts

theorem Documented.declared (h : e.Documented) : e.Declared ∧ ∀ f ∈ e.fields, f.Expressible := by
  induction h with
  | read h =>
    obtain ⟨_, _, _, hgiven, hdeclare⟩ := declare_of_ofJson h
    exact ⟨.declare hdeclare, expressible_of_declare hdeclare hgiven⟩
  | build hgiven h =>
    obtain ⟨_, hdeclare⟩ := declare_of_build h
    exact ⟨.declare hdeclare, expressible_of_declare hdeclare hgiven⟩
  | setFieldHidden _ h ih =>
    refine ⟨.setFieldHidden ih.1 h, ?_⟩
    rw [(setFieldHidden_cases h).2]
    intro f hf
    obtain ⟨g, hg, rfl⟩ := List.mem_map.mp hf
    exact expressible_hide (ih.2 g hg) _ _

theorem readParts?_toJson (h : ∀ f ∈ e.fields, f.Expressible) :
    readParts? e.toJson = some (e.name, e.fields, e.config) := by
  unfold readParts? toJson
  rw [record?_objectOf (by simp)]
  have hfields := list?_map fun f hf => Field.ofJson?_toJson (h f hf)
  simp [Dict.get?, required?, text?, Json.str?, withDefault?, hfields, EntityConfig.ofJson?_toJson]

/-- Reading the document of an entity gives the entity. -/
theorem ofJson_toJson (h : e.Documented) : ofJson e.toJson = .ok e := by
  obtain ⟨hdeclared, hexpressible⟩ := h.declared
  unfold ofJson
  rw [readParts?_toJson hexpressible]
  exact declare_of_settled hdeclared.settled

/-- A document with a limit that is an integer; the primary field is put in front, and a field is
hidden before the entity is written. -/
theorem ofJson_toJson_people :
    let doc : Json := .obj [("config", .obj [("display_name", .str "People")]),
      ("fields", .arr [
        .obj [("default_value", .str "nobody"), ("max_length", .int 20), ("name", .str "name"),
          ("required", .bool true), ("type", .str "text")],
        .obj [("minimum", .int 18), ("name", .str "age"), ("type", .str "number")]]),
      ("name", .str "people")]
    let eighteen : Double := ⟨false, 5066549580791808, -48, by decide⟩
    let people (hidden : Bool) : Entity := ⟨"people", [.primary "id" .integer,
      ⟨"name", .text (some 20) none none, true, some (.str "nobody"), hidden, true⟩,
      ⟨"age", .number (some (.finite eighteen)) none, false, none, false, true⟩],
      { displayName := some "People" }, rfl⟩
    ofJson doc = .ok (people false) ∧ (people false).setFieldHidden "name" true = .ok (people true)
      ∧ ofJson (people true).toJson = .ok (people true) := by
  intro doc eighteen people
  have hread : ofJson doc = .ok (people false) := by rfl
  have hhidden : (people false).setFieldHidden "name" true = .ok (people true) := by rfl
  exact ⟨hread, hhidden, ofJson_toJson ((Documented.read hread).setFieldHidden hhidden)⟩

end Entity
end EntityMapper
