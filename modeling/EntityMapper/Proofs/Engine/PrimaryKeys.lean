import EntityMapper.Proofs.Dialect.Stored
import EntityMapper.Proofs.Engine.Rules
import EntityMapper.Proofs.Entity.Document

/-!
# Primary keys in writes

Callers do not write a primary key that is not fillable: a row that names it is refused, whatever else
it holds.
-/

namespace EntityMapper

open Sql Sql.Command

variable {d : Dialect} {m : Engine} {e : Entity} {row : Row} {x : Exchange}

/-- The write is of one row, and this gives a value to the name. -/
def Write.Sets (n : String) : Write → Prop
  | insertOne (.obj row) => Dict.contains row n = true
  | updateOne _ (.obj row) => Dict.contains row n = true
  | updateWhere _ (.obj row) => Dict.contains row n = true
  | _ => False

/-- An error that refuses the row; or the filter of a change, which is looked at before the row. -/
def Write.Refusal (m : Engine) (w : Write) (error : DataError) : Prop :=
  (∃ v, error = .invalid v)
    ∨ ∃ filter data fault, w = .updateWhere filter data
      ∧ m.validator.convert filter = .error fault ∧ error = .query fault

namespace Engine

/-! ## Refused rows -/

theorem checkWritable_primary (hnamed : Entity.NamedFields e.fields) :
    checkWritable e e.primary.name = .ok () ↔ e.primary.fillable = true := by
  unfold checkWritable
  rw [hnamed.field?_eq e.primary_mem.1]
  dsimp only
  rw [Entity.isStored_of_isPrimary e.primary_mem.2]
  cases e.primary.fillable <;> simp

theorem unwritable_of_contains (hnamed : Entity.NamedFields e.fields)
    (hprotected : e.primary.fillable = false) (hrow : Dict.contains row e.primary.name = true) :
    ∃ violation, writable e (.obj row) = .error violation := by
  refine (writable_obj e row).resolve_left fun hwritable => ?_
  obtain ⟨entry, hentry, hname⟩ := List.mem_map.mp ((Dict.contains_iff row _).mp hrow)
  have hcheck := (obj_of_writable hwritable).2 entry hentry
  rw [hname, checkWritable_primary hnamed, hprotected] at hcheck
  cases hcheck

theorem write_of_sets (hnamed : Entity.NamedFields e.fields) (hprotected : e.primary.fillable = false)
    {w : Write} (hsets : w.Sets e.primary.name) (x : Exchange) :
    ∃ error, w.on m e x = ([.error error], x) ∧ w.Refusal m error := by
  unfold Write.Sets at hsets
  split at hsets
  · obtain ⟨violation, hrow⟩ := unwritable_of_contains hnamed hprotected hsets
    exact ⟨_, congrArg Write.on.single (insertOne_of_unwritable hrow x), .inl ⟨violation, rfl⟩⟩
  · rename_i id _
    obtain ⟨violation, hrow⟩ := unwritable_of_contains hnamed hprotected hsets
    have hrefused := updateOne_of_refused (m := m) (prepareChanges_of_unwritable hrow) id x
    exact ⟨_, congrArg Write.on.single hrefused, .inl ⟨violation, rfl⟩⟩
  · rename_i filter given
    obtain ⟨violation, hrow⟩ := unwritable_of_contains hnamed hprotected hsets
    obtain ⟨v, hrefused⟩ | ⟨fault, hfault, hrefused⟩ :=
      updateWhere_of_refused (m := m) (prepareChanges_of_unwritable hrow) filter x
    · exact ⟨_, congrArg Write.on.single hrefused, .inl ⟨v, rfl⟩⟩
    · exact ⟨_, congrArg Write.on.single hrefused, .inr ⟨filter, _, fault, rfl, hfault, rfl⟩⟩
  · exact hsets.elim

/-! ## Fillable keys -/

theorem assignments_eq_nil {fields : List Field} (h : ∀ f ∈ fields, row.get? f.name = none) :
    assignments d row fields = .ok [] := by
  induction fields with
  | nil => rfl
  | cons f fs ih =>
    rw [List.forall_mem_cons] at h
    rw [assignments, h.1]
    exact ih h.2

theorem check_int_of_isPrimary {f : Field} (h : f.isPrimary = true) (n : Int) :
    ∃ taken, f.check (.int n) = .ok taken := by
  unfold Field.isPrimary at h
  split at h
  · rename_i format handler hkind
    unfold Field.check Field.checkPresent
    rw [hkind]
    cases format <;> exact ⟨_, rfl⟩
  · cases h

theorem ofFilter_byId (hnamed : Entity.NamedFields e.fields) (n : Int) :
    ∃ conditions, Condition.ofFilter d (.of e) (byId e (.int n)) = .ok conditions := by
  have hresolve := Scope.resolve_of_mem (s := .of e) hnamed e.primary_stored
  obtain ⟨w, hencode⟩ := (d.encode_ok_iff e.primary (.int n)).mpr
    (check_int_of_isPrimary e.primary_mem.2 n)
  have hop : Condition.ofOperator d ((Scope.of e).column e.primary.name) e.primary "$eq" (.int n)
      = .ok (.compare ((Scope.of e).column e.primary.name) .eq ⟨w, some e.primary⟩) := by
    change Condition.comparison d _ e.primary .eq (.int n) = _
    unfold Condition.comparison Condition.operand
    rw [hencode]
    rfl
  exact ⟨_, Condition.ofFilter_put_nil hresolve hop⟩

theorem prepareChanges_of_permits (hwritable : writable e (.obj row) = .ok row)
    (hrow : e.Permits m.patterns row) : m.prepareChanges e (.obj row) = .ok row := by
  unfold prepareChanges
  rw [hwritable]
  change (e.validateChanges m.patterns row >>= _) = _
  rw [Entity.validateChanges_iff.mpr hrow]
  rfl

/-- Changes that give no field a value only read the rows. -/
theorem updating_of_unchanged {filter : Filter} {conditions : List Condition}
    (hrow : ∀ f ∈ e.storedFields.filter (!·.isPrimary), row.get? f.name = none)
    (hfilter : Condition.ofFilter d (.of e) filter = .ok conditions) :
    updating d e row filter = .ok (.select (.of e) (storedNames e) conditions none none) := by
  unfold updating
  rw [assignments_eq_nil hrow]
  change (Condition.ofFilter d (.of e) filter >>= _) = _
  rw [hfilter]
  rfl

theorem updateOne_of_changes {id : Json} {c : Command}
    (hprepared : m.prepareChanges e (.obj row) = .ok row)
    (hc : updating m.dialect e row (byId e id) = .ok c) (x : Exchange) :
    ∃ later, ((m.updateOne e id (.obj row)).on x).2.log
      = x.log ++ .query (c.statement m.dialect) :: later := by
  unfold updateOne
  rw [hprepared, Call.on_bind_ok (Call.on_ofExcept_ok row x), hc,
    Call.on_bind_ok (Call.on_lift (.ok c) x)]
  unfold write run
  rw [bind_assoc]
  refine Call.query_bind_log (P := fun _ => True) _ (fun rows => ?_) x
  exact (Call.sends_pure _).bind fun shown _ => sends_single _ _

/-- A row that names nothing but the key changes nothing. It is let through all the same, and the row
of the key is read. -/
theorem updateOne_key (hnamed : Entity.NamedFields e.fields) (hfillable : e.primary.fillable = true)
    (x : Exchange) :
    ∃ s later, ((m.updateOne e (.int 1) (.obj [(e.primary.name, .int 1)])).on x).2.log
      = x.log ++ .query s :: later := by
  obtain ⟨hmem, hprimary⟩ := e.primary_mem
  have hwritable : writable e (.obj [(e.primary.name, .int 1)])
      = .ok [(e.primary.name, .int 1)] := by
    change ([(e.primary.name, Json.int 1)].forM _ >>= _) = _
    rw [Result.forM_ok_iff.mpr (by simpa using (checkWritable_primary hnamed).mpr hfillable)]
    rfl
  have hpermits : e.Permits m.patterns [(e.primary.name, .int 1)] := by
    intro entry hentry f hf
    rw [List.mem_singleton.mp hentry] at hf ⊢
    cases hf.symm.trans (hnamed.field?_eq hmem)
    exact ⟨by simp [Json.isNull], allows_of_isPrimary hprimary _⟩
  have hunchanged : ∀ f ∈ e.storedFields.filter (!·.isPrimary),
      Dict.get? [(e.primary.name, Json.int 1)] f.name = none := by
    intro f hf
    obtain ⟨hstored, hother⟩ := List.mem_filter.mp hf
    have hne := name_ne_primary hnamed hstored (by simpa using hother)
    rw [Dict.get?_cons, if_neg (Ne.symm hne)]
    rfl
  obtain ⟨conditions, hconditions⟩ := ofFilter_byId (d := m.dialect) hnamed 1
  exact ⟨_, updateOne_of_changes (prepareChanges_of_permits hwritable hpermits)
    (updating_of_unchanged hunchanged hconditions) x⟩

/-! ## Main statement -/

/-- A key is protected from callers exactly when its field is not fillable: then each write of a row
that names it is refused and leaves everything as it was, and so is that row among many. A key that is
put in front of the fields is protected; one that is declared is when the declaration says so. -/
theorem key_is_protected_iff (m : Engine) (hnamed : Entity.NamedFields e.fields) :
    (e.primary.fillable = false ↔ ∀ (w : Write) (x : Exchange), w.Sets e.primary.name →
        ∃ error, w.on m e x = ([.error error], x) ∧ w.Refusal m error)
      ∧ (e.primary.fillable = false →
        ∀ (before after : List Json) (row : Row) (x : Exchange),
          Dict.contains row e.primary.name = true → ∃ v,
            let first := (Write.insertMany before).on m e x
            let last := (Write.insertMany after).on m e first.2
            (Write.insertMany (before ++ .obj row :: after)).on m e x
              = (first.1 ++ .error (.invalid v) :: last.1, last.2))
      ∧ ∀ (name : String) (given : List Field) (config : EntityConfig),
        Entity.declare name given config = .ok e →
        (e.primary.fillable = true ↔ ∃ f ∈ given, f.isPrimary = true ∧ f.fillable = true) := by
  refine ⟨⟨fun hprotected w x hsets => write_of_sets hnamed hprotected hsets x, fun h => ?_⟩,
    fun hprotected before after row x hrow => ?_, fun _ _ _ => Entity.primary_fillable_iff⟩
  · -- Were the key fillable, a change of it would be sent.
    rw [← Bool.not_eq_true]
    intro hfillable
    have hsets : (Write.updateOne (.int 1) (.obj [(e.primary.name, .int 1)])).Sets e.primary.name :=
      (Dict.contains_iff _ _).mpr (by simp)
    obtain ⟨error, hrefused, -⟩ := h _ {} hsets
    obtain ⟨s, later, hsent⟩ := updateOne_key (m := m) hnamed hfillable {}
    have hlog := congrArg (fun outcome => outcome.2.log) hrefused
    cases hsent.symm.trans hlog
  · obtain ⟨violation, hrefused⟩ := unwritable_of_contains hnamed hprotected hrow
    exact ⟨violation, insertMany_of_refused (insertOne_of_unwritable hrefused _) after⟩

/-- A document that does not say who writes the key leaves it to callers. -/
def notes : Json :=
  .obj [("name", .str "notes"),
    ("fields", .arr [.obj [("name", .str "id"), ("type", .str "primary")]])]

theorem notes_key_is_written :
    let m : Engine := { randomKeys := fun _ => "" }
    let insertion : Write := .insertOne (.obj [("id", .int 7)])
    ∃ e, Entity.ofJson notes = .ok e ∧ e.primary = ⟨"id", .primary .integer none, false, none, false, true⟩
      ∧ insertion.Sets e.primary.name
      ∧ (insertion.on m e {}).2.log
        = [.query ⟨"INSERT INTO \"notes\" (\"id\") VALUES (?) RETURNING \"id\"", [.int 7]⟩] := by
  intro m insertion
  exact ⟨⟨"notes", [⟨"id", .primary .integer none, false, none, false, true⟩], {}, rfl⟩,
    rfl, rfl, rfl, rfl⟩

def keyedAuthors : Entity := ⟨"authors", [.primary "id" .uuid, .text "name"], {}, rfl⟩

theorem named_keyedAuthors : Entity.NamedFields keyedAuthors.fields := by
  constructor
  · decide
  · decide

/-- Of two changes of names the one that sets a key as well is refused. -/
theorem key_is_protected_authors :
    let m : Engine := { randomKeys := fun _ => "k" }
    let change : Write := .updateOne (.str "a") (.obj [("id", .str "b"), ("name", .str "Ada")])
    let correction : Write := .updateOne (.str "a") (.obj [("name", .str "Ada")])
    Entity.NamedFields keyedAuthors.fields
      ∧ keyedAuthors.primary.fillable = false
      ∧ change.Sets keyedAuthors.primary.name
      ∧ (∃ error, change.on m keyedAuthors {} = ([.error error], {}) ∧ change.Refusal m error)
      ∧ (correction.on m keyedAuthors {}).2.log
        = [.query ⟨"UPDATE \"authors\" SET \"name\" = ? WHERE \"id\" = ?"
          ++ " RETURNING \"id\", \"name\"", [.str "Ada", .str "a"]⟩] := by
  intro m change correction
  obtain ⟨hprotected, -⟩ := key_is_protected_iff m named_keyedAuthors
  have hsets : change.Sets keyedAuthors.primary.name := rfl
  exact ⟨named_keyedAuthors, rfl, hsets, hprotected.mp rfl change {} hsets, rfl⟩

end Engine
end EntityMapper
