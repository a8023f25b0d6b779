import EntityMapper.Proofs.Engine.Rules

/-!
# Defaults of inserted rows

A field that callers may write and leave out is given its default, and a null that they write stays.
A field that they may not write is not given its default either: its column is left out of every
INSERT, and if the field is required no row is inserted at all.
-/

namespace EntityMapper

open Sql Sql.Command

variable {patterns : Pattern.Reader} {d : Dialect} {m : Engine} {e : Entity} {f : Field}
  {row keyed : Row} {v : Json} {n : String}

/-- An INSERT of values for fields that have this property. -/
def Statement.Inserts (d : Dialect) (e : Entity) (P : List (Field × Json) → Prop) (s : Statement) :
    Prop :=
  ∃ given, s.sql = insertText d e given ∧ s.parameters = given.map Prod.snd ∧ P given

/-- An INSERT that gives the field the stored form of this value. -/
def Statement.Carries (d : Dialect) (e : Entity) (f : Field) (v : Json) : Statement → Prop :=
  Inserts d e fun given => ∃ w, (f, w) ∈ given ∧ d.encode f v = .ok w

/-- An INSERT that gives the field no value. -/
def Statement.Lacks (d : Dialect) (e : Entity) (f : Field) : Statement → Prop :=
  Inserts d e fun given => ∀ g ∈ given, g.1.name ≠ f.name

namespace Engine

/-! ## Filling in -/

def fillDefault (row : Row) (f : Field) : Row :=
  match f.defaultValue with
  | some value => if Dict.contains row f.name then row else Dict.insert row f.name value
  | none => row

theorem withDefaults_eq (e : Entity) (row : Row) :
    withDefaults e row = e.fillableFields.foldl fillDefault row := rfl

theorem get?_fillDefault_self (row : Row) (f : Field) :
    (fillDefault row f).get? f.name = (row.get? f.name).or f.defaultValue := by
  unfold fillDefault
  cases f.defaultValue with
  | none => simp
  | some value => cases hfound : row.get? f.name <;> simp [Dict.contains, hfound]

theorem get?_fillDefault_of_ne (row : Row) (h : n ≠ f.name) :
    (fillDefault row f).get? n = row.get? n := by
  unfold fillDefault
  cases f.defaultValue with
  | none => rfl
  | some value =>
    dsimp only
    split
    · rfl
    · exact Dict.get?_insert_of_ne _ _ h

theorem get?_foldl_of_notMem {fields : List Field} (h : n ∉ fields.map (·.name)) :
    (fields.foldl fillDefault row).get? n = row.get? n := by
  induction fields generalizing row with
  | nil => rfl
  | cons f fields ih =>
    rw [List.map_cons, List.mem_cons, not_or] at h
    rw [List.foldl_cons, ih h.2, get?_fillDefault_of_ne row h.1]

theorem get?_foldl_of_mem {fields : List Field} (hnames : (fields.map (·.name)).Nodup)
    (hf : f ∈ fields) :
    (fields.foldl fillDefault row).get? f.name = (row.get? f.name).or f.defaultValue := by
  induction fields generalizing row with
  | nil => cases hf
  | cons g fields ih =>
    rw [List.map_cons, List.nodup_cons] at hnames
    rw [List.foldl_cons]
    rcases List.mem_cons.mp hf with rfl | hf
    · rw [get?_foldl_of_notMem hnames.1, get?_fillDefault_self]
    · have hne : f.name ≠ g.name := fun hname => hnames.1 (hname ▸ List.mem_map_of_mem hf)
      rw [ih hnames.2 hf, get?_fillDefault_of_ne row hne]

theorem mem_fillableFields : f ∈ e.fillableFields ↔ f ∈ e.storedFields ∧ f.fillable = true := by
  simp [Entity.fillableFields, Entity.storedFields, and_assoc, and_comm (a := f.fillable = true)]

theorem get?_withDefaults (hnamed : Entity.NamedFields e.fields) (hf : f ∈ e.storedFields)
    (hfillable : f.fillable = true) :
    (withDefaults e row).get? f.name = (row.get? f.name).or f.defaultValue := by
  rw [withDefaults_eq]
  refine get?_foldl_of_mem ?_ (mem_fillableFields.mpr ⟨hf, hfillable⟩)
  exact hnamed.distinct.sublist (List.filter_sublist.map _)

theorem get?_withDefaults_of_protected (hnamed : Entity.NamedFields e.fields)
    (hf : f ∈ e.storedFields) (hprotected : f.fillable = false) :
    (withDefaults e row).get? f.name = row.get? f.name := by
  rw [withDefaults_eq]
  apply get?_foldl_of_notMem
  intro hmem
  obtain ⟨g, hg, hname⟩ := List.mem_map.mp hmem
  have hsame : g = f :=
    Keyed.eq_of_key_eq hnamed.distinct (List.mem_filter.mp hg).1 (List.mem_filter.mp hf).1 hname
  rw [hsame, mem_fillableFields, hprotected] at hg
  cases hg.2

/-- A value that the caller gives is kept, whatever the defaults are. -/
theorem get?_withDefaults_of_given (hnamed : Entity.NamedFields e.fields) (hf : f ∈ e.storedFields)
    (hrow : row.get? f.name = some v) : (withDefaults e row).get? f.name = some v := by
  cases hfillable : f.fillable with
  | true => rw [get?_withDefaults hnamed hf hfillable, hrow, Option.some_or]
  | false => rw [get?_withDefaults_of_protected hnamed hf hfillable, hrow]

theorem get?_of_protected (hnamed : Entity.NamedFields e.fields) (hf : f ∈ e.storedFields)
    (hprotected : f.fillable = false) (hwritable : writable e (.obj row) = .ok row) :
    row.get? f.name = none := by
  apply Dict.get?_eq_none
  intro hmem
  obtain ⟨entry, hentry, hname⟩ := List.mem_map.mp hmem
  have hcheck := (obj_of_writable hwritable).2 entry hentry
  unfold checkWritable at hcheck
  rw [hname, hnamed.field?_eq (List.mem_filter.mp hf).1] at hcheck
  simp [hprotected] at hcheck

/-! ## Rows that are sent -/

/-- What is sent for a row is an INSERT of what the row holds once it has its defaults and its key. -/
theorem insertOne_inserts (hnamed : Entity.NamedFields e.fields) {P : List (Field × Json) → Prop}
    (h : ∀ keyed given, writable e (.obj row) = .ok row →
      (∀ g ∈ e.storedFields, g.isPrimary = false →
        keyed.get? g.name = (withDefaults e row).get? g.name) →
      Encoded m.dialect keyed e.storedFields given → P given) :
    Call.Sends (Statement.Inserts m.dialect e P) (m.insertOne e (.obj row)) := by
  refine insertOne_sends fun keyed c hprepared hc => ?_
  unfold prepareInsert at hprepared
  obtain ⟨taken, hwritable, hprepared⟩ := Call.returns_bind hprepared
  obtain ⟨_, -, hkeyed⟩ := Call.returns_bind hprepared
  have hwritable := Call.returns_ofExcept hwritable
  obtain ⟨hrow, -⟩ := obj_of_writable hwritable
  cases hrow
  unfold inserting at hc
  obtain ⟨as, has, hc⟩ := Result.of_bind hc
  cases hc
  obtain ⟨given, hgiven, rfl⟩ := encoded_of_assignments has
  obtain ⟨hsql, hparameters⟩ := insert_statement m.dialect e given
  refine ⟨given, hsql, hparameters, h keyed given hwritable (fun g hg hother => ?_) hgiven⟩
  exact get?_withKey hkeyed (name_ne_primary hnamed hg hother)

theorem insertOne_carries (hnamed : Entity.NamedFields e.fields) (hf : f ∈ e.storedFields)
    (hprimary : f.isPrimary = false) (hrow : (withDefaults e row).get? f.name = some v) :
    Call.Sends (Statement.Carries m.dialect e f v) (m.insertOne e (.obj row)) :=
  insertOne_inserts hnamed fun _ _ _ hkept hgiven =>
    hgiven.exists_given hf ((hkept f hf hprimary).trans hrow)

theorem insertOne_lacks (hnamed : Entity.NamedFields e.fields) (hf : f ∈ e.storedFields)
    (hprimary : f.isPrimary = false) (hprotected : f.fillable = false) :
    Call.Sends (Statement.Lacks m.dialect e f) (m.insertOne e (.obj row)) := by
  refine insertOne_inserts hnamed fun keyed given hwritable hkept hgiven g hg hname => ?_
  obtain ⟨v, hv, -⟩ := hgiven.values g hg
  rw [hname, hkept f hf hprimary, get?_withDefaults_of_protected hnamed hf hprotected,
    get?_of_protected hnamed hf hprotected hwritable] at hv
  cases hv

/-! ## Rows that are refused -/

theorem not_fails_withKey {violation : Violation} :
    ¬Call.Fails (m.withKey e row) (.invalid violation) := by
  intro h
  unfold withKey at h
  split at h
  · exact Call.not_fails_pure h
  · obtain ⟨_, _, h⟩ | ⟨key, -, h⟩ := Call.fails_bind h
    · cases h
    · exact Call.not_fails_pure h
  · obtain ⟨_, _, h⟩ | ⟨outcome, -, h⟩ := Call.fails_bind h
    · cases h
    · cases outcome with
      | generated v => exact Call.not_fails_pure h
      | failed message => cases Call.fails_throw h

theorem not_fails_write {c : Command} {violation : Violation} :
    ¬Call.Fails (m.write e c) (.invalid violation) := by
  intro h
  unfold write run at h
  obtain hquery | ⟨rows, -, hdone⟩ := Call.fails_bind h
  · obtain ⟨message, hsame⟩ := Call.fails_query hquery
    cases hsame
  · exact Call.not_fails_pure hdone

theorem assignments_error {fields : List Field} {error : DataError}
    (h : assignments d row fields = .error error) :
    ∃ f ∈ fields, ∃ v violation, f.check v = .error violation ∧ error = .invalid violation := by
  induction fields with
  | nil => cases h
  | cons f fields ih =>
    have hrest (h : assignments d row fields = .error error) : ∃ g ∈ f :: fields, ∃ v violation,
        g.check v = .error violation ∧ error = .invalid violation := by
      obtain ⟨g, hg, hrefused⟩ := ih h
      exact ⟨g, List.mem_cons_of_mem _ hg, hrefused⟩
    unfold assignments at h
    split at h
    · exact hrest h
    · rename_i v _
      rcases Result.error_of_bind h with h | ⟨operand, -, h⟩
      · unfold Condition.operand at h
        rw [Dialect.encode_eq] at h
        cases hcheck : f.check v with
        | error violation =>
          rw [hcheck] at h
          cases h
          exact ⟨f, List.mem_cons_self, v, violation, hcheck, rfl⟩
        | ok taken =>
          rw [hcheck] at h
          cases h
      · rcases Result.error_of_bind h with h | ⟨rest, -, h⟩
        · exact hrest h
        · cases h

/-- A row is refused as it was given, or as it is with its defaults, or for the type of a value. -/
theorem insertOne_invalid {data : Json} {violation : Violation}
    (h : Call.Fails (m.insertOne e data) (.invalid violation)) :
    writable e data = .error violation
      ∨ (∃ row, data = .obj row ∧ e.validateRow m.patterns (withDefaults e row) = .error violation)
      ∨ ∃ f ∈ e.storedFields, ∃ v, f.check v = .error violation := by
  unfold insertOne at h
  obtain hprepare | ⟨keyed, -, hinsert⟩ := Call.fails_bind h
  · unfold prepareInsert at hprepare
    obtain hfails | ⟨row, hrow, hchecked⟩ := Call.fails_bind hprepare
    · obtain ⟨fault, hfault, hsame⟩ := Call.fails_ofExcept hfails
      cases hsame
      exact .inl hfault
    obtain ⟨rfl, -⟩ := obj_of_writable (Call.returns_ofExcept hrow)
    obtain hfails | ⟨_, -, hkeyed⟩ := Call.fails_bind hchecked
    · obtain ⟨fault, hfault, hsame⟩ := Call.fails_ofExcept hfails
      cases hsame
      exact .inr (.inl ⟨row, rfl, hfault⟩)
    · exact (not_fails_withKey hkeyed).elim
  · obtain hfails | ⟨c, -, hwritten⟩ := Call.fails_bind hinsert
    · rcases Result.error_of_bind (Call.fails_lift hfails) with hrefused | ⟨as, -, hdone⟩
      · obtain ⟨f, hf, v, _, hcheck, hsame⟩ := assignments_error hrefused
        cases hsame
        exact .inr (.inr ⟨f, hf, v, hcheck⟩)
      · cases hdone
    · obtain hfails | ⟨rows, -, hdone⟩ := Call.fails_bind hwritten
      · exact absurd hfails not_fails_write
      · exact absurd hdone Call.not_fails_pure

theorem writable_ne_required {data : Json} : writable e data ≠ .error (.required n) := by
  intro h
  unfold writable at h
  split at h
  · rcases Result.error_of_bind h with h | ⟨_, -, h⟩
    · obtain ⟨entry, -, h⟩ := Result.error_of_forM h
      unfold checkWritable at h
      split at h
      · cases h
      · split at h <;> cases h
    · cases h
  · cases h

theorem whenSet_ne_required {α : Type} {rule : Option α} {check : α → Except Violation Unit}
    (h : ∀ a, check a ≠ .error (.required n)) : Field.whenSet rule check ≠ .error (.required n) := by
  cases rule with
  | none => nofun
  | some a => exact h a

theorem demand_error_iff {holds : Bool} {violation fault : Violation} :
    Field.demand holds violation = .error fault ↔ holds = false ∧ violation = fault := by
  cases holds <;> simp [Field.demand]

theorem demand_ne_required {holds : Bool} {violation : Violation}
    (h : violation ≠ .required n) : Field.demand holds violation ≠ .error (.required n) :=
  fun hbroken => h (demand_error_iff.mp hbroken).2

theorem seq_ne_required {first rest : Except Violation Unit} (hfirst : first ≠ .error (.required n))
    (hrest : rest ≠ .error (.required n)) : (first >>= fun _ => rest) ≠ .error (.required n) := by
  intro h
  rcases Result.error_of_bind h with h | ⟨_, -, h⟩
  · exact hfirst h
  · exact hrest h

theorem matchPattern_ne_required {name s text : String} :
    Field.matchPattern patterns name s text ≠ .error (.required n) := by
  unfold Field.matchPattern
  split
  · nofun
  · exact demand_ne_required (by simp)

theorem validate_ne_required : f.validate patterns v ≠ .error (.required n) := by
  unfold Field.validate
  split
  · rw [Field.validateText_eq]
    refine seq_ne_required (whenSet_ne_required fun _ => demand_ne_required (by simp)) ?_
    refine seq_ne_required (whenSet_ne_required fun _ => demand_ne_required (by simp)) ?_
    exact whenSet_ne_required fun _ => matchPattern_ne_required
  · split
    · rw [Field.validateNumber_eq]
      refine seq_ne_required (whenSet_ne_required fun _ => demand_ne_required (by simp)) ?_
      exact whenSet_ne_required fun _ => demand_ne_required (by simp)
    · nofun
  · nofun

/-- A field is missed when it is required and the row gives it no value, or null. -/
theorem missed_of_validateStored (h : Entity.validateStored patterns row f = .error (.required n)) :
    f.name = n ∧ f.required = true ∧ f.isPrimary = false
      ∧ ∀ v, row.get? n = some v → v.isNull = true := by
  unfold Entity.validateStored at h
  rcases Result.error_of_bind h with hmissing | ⟨_, -, hrules⟩
  · obtain ⟨hbroken, hsame⟩ := demand_error_iff.mp hmissing
    cases hsame
    simp only [Bool.not_eq_false', Bool.and_eq_true, Bool.not_eq_true'] at hbroken
    obtain ⟨⟨hrequired, hprimary⟩, hnone⟩ := hbroken
    refine ⟨rfl, hrequired, hprimary, fun v hv => ?_⟩
    rwa [hv] at hnone
  · split at hrules
    · exact absurd hrules validate_ne_required
    · cases hrules

theorem missed_of_fails {data : Json} (h : Call.Fails (m.insertOne e data) (.invalid (.required n))) :
    ∃ row, data = .obj row ∧ ∃ f ∈ e.storedFields, f.name = n
      ∧ ∀ v, (withDefaults e row).get? n = some v → v.isNull = true := by
  obtain h | ⟨row, hrow, h⟩ | ⟨f, hf, v, h⟩ := insertOne_invalid h
  · exact absurd h writable_ne_required
  · obtain ⟨f, hf, hstored⟩ := Result.error_of_forM h
    obtain ⟨hname, -, -, hnull⟩ := missed_of_validateStored hstored
    exact ⟨row, hrow, f, hf, hname, hnull⟩
  · obtain ⟨expected, hsame⟩ := Field.mismatch_of_check (List.mem_filter.mp hf).2 h
    cases hsame

theorem not_missed_of_default (hnamed : Entity.NamedFields e.fields) (hf : f ∈ e.storedFields)
    (hfillable : f.fillable = true) (hdefault : f.defaultValue = some v) (hv : v.isNull = false)
    (hrow : row.get? f.name = none) :
    ¬Call.Fails (m.insertOne e (.obj row)) (.invalid (.required f.name)) := by
  intro h
  obtain ⟨_, hsame, _, -, -, hnull⟩ := missed_of_fails h
  cases hsame
  have hfilled : (withDefaults e row).get? f.name = some v := by
    rw [get?_withDefaults hnamed hf hfillable, hrow, hdefault, Option.none_or]
  rw [hnull v hfilled] at hv
  cases hv

theorem validateStored_of_missed (hrequired : f.required = true) (hprimary : f.isPrimary = false)
    (hnone : row.get? f.name = none) :
    Entity.validateStored patterns row f = .error (.required f.name) := by
  unfold Entity.validateStored
  rw [hnone, hrequired, hprimary]
  rfl

/-- A row that one more value makes complete misses nothing but that value. -/
theorem validateRow_of_missed (hnamed : Entity.NamedFields e.fields) (hf : f ∈ e.storedFields)
    (hprimary : f.isPrimary = false) (hrequired : f.required = true) (hnone : row.get? f.name = none)
    (hrow : e.Complete patterns (row.insert f.name v)) :
    e.validateRow patterns row = .error (.required f.name) := by
  have hmissed : Entity.validateStored patterns row f = .error (.required f.name) :=
    validateStored_of_missed hrequired hprimary hnone
  have hothers : ∀ g ∈ e.storedFields, g ≠ f → Entity.validateStored patterns row g = .ok () := by
    intro g hg hne
    have hname : g.name ≠ f.name := fun hname => hne
      (Keyed.eq_of_key_eq hnamed.distinct (List.mem_filter.mp hg).1 (List.mem_filter.mp hf).1 hname)
    have hsame : (row.insert f.name v).get? g.name = row.get? g.name :=
      Dict.get?_insert_of_ne _ _ hname
    rw [Entity.validateStored_iff, ← hsame]
    exact ⟨hrow.required g hg, hrow.allowed g hg⟩
  cases hcheck : e.validateRow patterns row with
  | ok _ =>
    rw [Result.forM_ok_iff.mp hcheck f hf] at hmissed
    cases hmissed
  | error violation =>
    obtain ⟨g, hg, herror⟩ := Result.error_of_forM hcheck
    by_cases hsame : g = f
    · rw [← herror, hsame, hmissed]
    · rw [hothers g hg hsame] at herror
      cases herror

theorem insertOne_of_protected (hnamed : Entity.NamedFields e.fields) (hf : f ∈ e.storedFields)
    (hprimary : f.isPrimary = false) (hprotected : f.fillable = false) (hrequired : f.required = true)
    (hwritable : writable e (.obj row) = .ok row)
    (hrow : e.Complete m.patterns ((withDefaults e row).insert f.name v)) (x : Exchange) :
    (m.insertOne e (.obj row)).on x = (.error (.invalid (.required f.name)), x) := by
  have hnone : (withDefaults e row).get? f.name = none := by
    rw [get?_withDefaults_of_protected hnamed hf hprotected,
      get?_of_protected hnamed hf hprotected hwritable]
  refine Call.on_bind_error ?_
  unfold prepareInsert
  rw [hwritable, Call.on_bind_ok (Call.on_ofExcept_ok row x)]
  refine Call.on_bind_error ?_
  rw [validateRow_of_missed hnamed hf hprimary hrequired hnone hrow]
  rfl

/-! ## Main statement -/

/-- A default is inserted for a field that callers may write, when they leave it out, and then the
field is not missed unless the default is null; a null that they write is inserted. No default is
inserted for a field that they may not write: every INSERT leaves it out, and a row that needs nothing
but its value is refused. -/
theorem defaults_are_inserted (m : Engine) (hnamed : Entity.NamedFields e.fields)
    (hf : f ∈ e.storedFields) (hprimary : f.isPrimary = false) (hdefault : f.defaultValue = some v) :
    (f.fillable = true → ∀ row : Row, row.get? f.name = none →
        Call.Sends (Statement.Carries m.dialect e f v) (m.insertOne e (.obj row))
          ∧ (v.isNull = false →
            ¬Call.Fails (m.insertOne e (.obj row)) (.invalid (.required f.name))))
      ∧ (∀ row : Row, row.get? f.name = some .null →
        Call.Sends (Statement.Carries m.dialect e f .null) (m.insertOne e (.obj row)))
      ∧ (f.fillable = false → ∀ row : Row,
        Call.Sends (Statement.Lacks m.dialect e f) (m.insertOne e (.obj row))
          ∧ (f.required = true → writable e (.obj row) = .ok row →
            e.Complete m.patterns ((withDefaults e row).insert f.name v) → ∀ x : Exchange,
              (m.insertOne e (.obj row)).on x = (.error (.invalid (.required f.name)), x))) := by
  refine ⟨fun hfillable row hrow => ⟨?_, fun hv => ?_⟩, fun row hrow => ?_,
    fun hprotected row => ⟨?_, fun hrequired hwritable hcomplete x => ?_⟩⟩
  · refine insertOne_carries hnamed hf hprimary ?_
    rw [get?_withDefaults hnamed hf hfillable, hrow, hdefault, Option.none_or]
  · exact not_missed_of_default hnamed hf hfillable hdefault hv hrow
  · exact insertOne_carries hnamed hf hprimary (get?_withDefaults_of_given hnamed hf hrow)
  · exact insertOne_lacks hnamed hf hprimary hprotected
  · exact insertOne_of_protected hnamed hf hprimary hprotected hrequired hwritable hcomplete x

/-! ## Tickets -/

/-- The status of a ticket, which begins as open. -/
def status (required fillable : Bool) : Field :=
  ⟨"status", .text none none none, required, some (.str "open"), false, fillable⟩

def ticketsWith (status : Field) : Entity :=
  ⟨"tickets", [.primary "id" .integer, .text "title", status], {}, rfl⟩

def lift : Json := .obj [("title", .str "Lift")]

theorem named_ticketsWith (required fillable : Bool) :
    Entity.NamedFields (ticketsWith (status required fillable)).fields := by
  cases required <;> cases fillable <;> exact ⟨by decide, by decide⟩

theorem status_stored (required fillable : Bool) :
    status required fillable ∈ (ticketsWith (status required fillable)).storedFields :=
  .tail _ (.tail _ (.head _))

/-- Where callers may write the status, a ticket is open unless they say otherwise. -/
theorem defaults_are_inserted_tickets :
    let m : Engine := { randomKeys := fun _ => "" }
    Call.Sends (Statement.Carries m.dialect (ticketsWith (status true true)) (status true true)
          (.str "open")) (m.insertOne (ticketsWith (status true true)) lift)
      ∧ ¬Call.Fails (m.insertOne (ticketsWith (status true true)) lift) (.invalid (.required "status"))
      ∧ ((m.insertOne (ticketsWith (status true true)) lift).on {}).2.log
        = [.query ⟨"INSERT INTO \"tickets\" (\"title\", \"status\") VALUES (?, ?)"
          ++ " RETURNING \"id\", \"title\", \"status\"", [.str "Lift", .str "open"]⟩] := by
  intro m
  obtain ⟨hfilled, -⟩ := defaults_are_inserted m (named_ticketsWith true true)
    (status_stored true true) rfl rfl
  obtain ⟨hcarries, hfound⟩ := hfilled rfl [("title", .str "Lift")] rfl
  exact ⟨hcarries, hfound rfl, rfl⟩

/-- Where callers may not write the status, a ticket goes without one, or is refused for it. -/
theorem protected_default_is_left_out :
    let m : Engine := { randomKeys := fun _ => "" }
    ((m.insertOne (ticketsWith (status false false)) lift).on {}).2.log
        = [.query ⟨"INSERT INTO \"tickets\" (\"title\") VALUES (?)"
          ++ " RETURNING \"id\", \"title\", \"status\"", [.str "Lift"]⟩]
      ∧ ¬Call.Sends (Statement.Carries m.dialect (ticketsWith (status false false)) (status false false)
          (.str "open")) (m.insertOne (ticketsWith (status false false)) lift)
      ∧ Call.Fails (m.insertOne (ticketsWith (status true false)) lift)
        (.invalid (.required "status")) := by
  intro m
  have hlog : ((m.insertOne (ticketsWith (status false false)) lift).on {}).2.log
      = [.query ⟨"INSERT INTO \"tickets\" (\"title\") VALUES (?)"
        ++ " RETURNING \"id\", \"title\", \"status\"", [.str "Lift"]⟩] := rfl
  refine ⟨hlog, fun hsends => ?_, {}, {}, rfl⟩
  obtain ⟨sent, hsent, hcarries⟩ := hsends {}
  rw [hlog] at hsent
  match sent, hsent with
  | [s], hsent =>
    obtain ⟨given, -, hparameters, w, hmem, hencode⟩ := hcarries s List.mem_cons_self
    cases hsent
    have hw : w ∈ given.map Prod.snd := List.mem_map_of_mem hmem
    rw [← hparameters] at hw
    rw [List.mem_singleton.mp hw] at hencode
    exact absurd (Except.ok.inj hencode) (by simp)

end Engine
end EntityMapper
