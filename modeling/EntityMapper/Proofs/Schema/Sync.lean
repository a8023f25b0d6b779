import EntityMapper.Schema.Sync

/-!
# What a synchronisation does

Whatever the database answers, and whatever the synchroniser has done before, a synchronisation ends
idle. It asks for one transaction at most: that of all planned statements, when it is forced and there
are any.
-/

namespace EntityMapper.Schema

/-! ## Transactions -/

/-- What the database sees of statements of a transaction, the first of which has this place. -/
def eventsFrom (index : Nat) (statements : List Statement) : List Event :=
  (statements.zipIdx index).map fun (s, i) => .transaction i s

@[simp] theorem eventsFrom_nil (index : Nat) : eventsFrom index [] = [] := rfl

@[simp] theorem eventsFrom_cons (index : Nat) (s : Statement) (rest : List Statement) :
    eventsFrom index (s :: rest) = .transaction index s :: eventsFrom (index + 1) rest := rfl

namespace Database

/-- The statements of a transaction that are run: all up to the first that fails. -/
def reached (db : Database) (statements : List Statement) : List Statement :=
  match db.unopened, db.failure with
  | some _, _ => []
  | none, some (place, _) => statements.take (place + 1)
  | none, none => statements

/-- The failure of a statement of the transaction, if one fails. -/
def statementFailure? (db : Database) (statements : List Statement) : Option DataError :=
  db.failure.bind fun (place, message) =>
    statements[place]?.map fun s => .statementFailed place s.sql message

/-- The first failure that a transaction meets. -/
def failure? (db : Database) (statements : List Statement) : Option DataError :=
  (db.unopened.map .database).or
    ((db.statementFailure? statements).or (db.uncommitted.map .database))

end Database

/-- A success, unless there was a failure. -/
def orFail {α : Type} (failure : Option DataError) (a : α) : Except DataError α :=
  match failure with
  | none => .ok a
  | some e => .error e

theorem of_orFail {α : Type} {failure : Option DataError} {a b : α} (h : orFail failure a = .ok b) :
    b = a := by
  cases failure with
  | none => exact (Except.ok.inj h).symm
  | some e => cases h

namespace Step

variable {α β : Type} {c : Step α} {f : α → Step β} {s s' : Synchronizer} {t : Target} {db : Database}
  {o : SyncOptions} {live : List LiveTable}

/-- What a step answers, and how it leaves the synchroniser. -/
def on (c : Step α) (s : Synchronizer) : Except DataError α × Synchronizer := c.run.run s

theorem on_bind (c : Step α) (f : α → Step β) (s : Synchronizer) :
    (c >>= f).on s =
      match c.on s with
      | (.ok a, s') => (f a).on s'
      | (.error e, s') => (.error e, s') := by
  unfold on
  rw [ExceptT.run_bind, StateT.run_bind]
  change (match c.run.run s with | (r, s') => _) = _
  rcases c.run.run s with ⟨_ | _, _⟩ <;> rfl

theorem on_bind_ok {a : α} (h : c.on s = (.ok a, s')) : (c >>= f).on s = (f a).on s' := by
  rw [on_bind, h]

theorem on_bind_error {e : DataError} (h : c.on s = (.error e, s')) :
    (c >>= f).on s = (.error e, s') := by
  rw [on_bind, h]

theorem on_record_bind (e : Event) (c : Step β) (s : Synchronizer) :
    (do record e; c : Step β).on s = c.on { s with log := s.log ++ [e] } := rfl

theorem on_check (message : Option String) (s : Synchronizer) :
    (check message).on s = (orFail (message.map .database) (), s) := by
  cases message <;> rfl

theorem on_transact (h : db.failure = none) (index : Nat) (statements : List Statement)
    (s : Synchronizer) : (transact db index statements).on s
      = (.ok (), { s with log := s.log ++ eventsFrom index statements }) := by
  induction statements generalizing index s with
  | nil =>
    rw [eventsFrom_nil, List.append_nil]
    rfl
  | cons first rest ih =>
    rw [transact, on_record_bind]
    simp [h, ih]

theorem on_transact_failing {index later : Nat} {message : String}
    (h : db.failure = some (index + later, message)) (statements : List Statement)
    (s : Synchronizer) : (transact db index statements).on s
      = (orFail (statements[later]?.map fun s => .statementFailed (index + later) s.sql message) (),
        { s with log := s.log ++ eventsFrom index (statements.take (later + 1)) }) := by
  -- With each statement that is run, the place that fails comes one nearer.
  induction statements generalizing index later s with
  | nil =>
    rw [List.take_nil, eventsFrom_nil, List.append_nil]
    rfl
  | cons first rest ih =>
    rw [transact, on_record_bind, h]
    cases later with
    | zero => simp; rfl
    | succ later =>
      have hplace : index + (later + 1) = index + 1 + later := by omega
      have hne : index + 1 + later ≠ index := by omega
      rw [hplace] at h ⊢
      simp [hne, ih h]

theorem on_transact_reached (h : db.unopened = none) (statements : List Statement)
    (s : Synchronizer) : (transact db 0 statements).on s
      = (orFail (db.statementFailure? statements) (),
        { s with log := s.log ++ eventsFrom 0 (db.reached statements) }) := by
  unfold Database.statementFailure? Database.reached
  rw [h]
  cases hfailure : db.failure with
  | none => exact on_transact hfailure 0 statements s
  | some failure =>
    obtain ⟨place, message⟩ := failure
    have hplace : db.failure = some (0 + place, message) := by rw [hfailure, Nat.zero_add]
    rw [on_transact_failing hplace, Nat.zero_add]
    rfl

/-- One transaction is asked for; it ends with the first failure that it meets. -/
theorem on_execute (db : Database) (statements : List Statement) (s : Synchronizer) :
    (execute db statements).on s = (orFail (db.failure? statements) (),
      { s with
        log := s.log ++ eventsFrom 0 (db.reached statements)
        batches := s.batches ++ [statements] }) := by
  unfold execute Database.failure?
  let asked : Synchronizer := { s with batches := s.batches ++ [statements] }
  have hasked : on (modify fun s => { s with batches := s.batches ++ [statements] } : Step Unit) s
      = (.ok (), asked) := rfl
  rw [on_bind_ok hasked]
  cases hopen : db.unopened with
  | some message =>
    have hreached : db.reached statements = [] := by
      unfold Database.reached
      rw [hopen]
    rw [on_bind_error (on_check (some message) asked), hreached, eventsFrom_nil, List.append_nil]
    rfl
  | none =>
    rw [on_bind_ok (on_check none asked), on_bind, on_transact_reached hopen]
    cases db.statementFailure? statements with
    | some e => rfl
    | none => exact on_check db.uncommitted _

/-! ## Whole synchronisations -/

theorem on_sync (t : Target) (db : Database) (o : SyncOptions) (s : Synchronizer) :
    (sync t db o).on s
      = (((attempt t db o).on s).1, { ((attempt t db o).on s).2 with phase := .idle }) := rfl

theorem on_introspect_ok (h : db.tables = .ok live) (s : Synchronizer) :
    (introspect db).on s = (.ok live, { s with log := s.log ++ [.introspection] }) := by
  unfold introspect
  rw [on_record_bind, h]
  rfl

theorem on_introspect_error {message : String} (h : db.tables = .error message)
    (s : Synchronizer) : (introspect db).on s
      = (.error (.database message), { s with log := s.log ++ [.introspection] }) := by
  unfold introspect
  rw [on_record_bind, h]
  rfl

theorem on_enter_bind (p : Phase) (c : Step β) (s : Synchronizer) :
    (do enter p; c : Step β).on s = c.on { s with phase := p } := rfl

theorem on_sync_of_error {message : String} (h : db.tables = .error message) (o : SyncOptions)
    (s : Synchronizer) : (sync t db o).on s
      = (.error (.database message), ⟨.idle, s.log ++ [.introspection], s.batches⟩) := by
  rw [on_sync]
  unfold attempt
  rw [on_enter_bind, on_bind_error (on_introspect_error h _)]

theorem on_sync_of_dry (h : db.tables = .ok live)
    (hdry : o.force = false ∨ t.statements live o.drop = []) (s : Synchronizer) :
    (sync t db o).on s
      = (.ok (t.statements live o.drop), ⟨.idle, s.log ++ [.introspection], s.batches⟩) := by
  have hcondition : (!o.force || (t.statements live o.drop).isEmpty) = true := by
    rcases hdry with hdry | hdry <;> simp [hdry]
  rw [on_sync]
  unfold attempt
  rw [on_enter_bind, on_bind_ok (on_introspect_ok h _), on_enter_bind]
  rw [if_pos hcondition]
  rfl

theorem on_sync_of_forced (h : db.tables = .ok live) (hforce : o.force = true)
    (hplan : t.statements live o.drop ≠ []) (s : Synchronizer) :
    (sync t db o).on s
      = (orFail (db.failure? (t.statements live o.drop)) (t.statements live o.drop),
        ⟨.idle, s.log ++ .introspection :: eventsFrom 0 (db.reached (t.statements live o.drop)),
          s.batches ++ [t.statements live o.drop]⟩) := by
  have hcondition : ¬(!o.force || (t.statements live o.drop).isEmpty) = true := by
    simp [hforce, hplan]
  rw [on_sync]
  unfold attempt
  rw [on_enter_bind, on_bind_ok (on_introspect_ok h _), on_enter_bind]
  rw [if_neg hcondition, on_enter_bind, on_bind, on_execute,
    List.append_cons s.log .introspection (eventsFrom _ _)]
  cases db.failure? (t.statements live o.drop) <;> rfl

/-! ## One after another -/

/-- The transactions that a synchronisation asks for. -/
def asked (t : Target) (db : Database) (o : SyncOptions) : List (List Statement) :=
  match db.tables with
  | .error _ => []
  | .ok live => [t.statements live o.drop].filter fun plan => o.force && plan ≠ []

/-- What the database sees of a synchronisation. -/
def seen (t : Target) (db : Database) (o : SyncOptions) : List Event :=
  .introspection :: (asked t db o).flatMap fun plan => eventsFrom 0 (db.reached plan)

/-- What a synchronisation asks for does not depend on those before it. -/
theorem after_sync (t : Target) (db : Database) (o : SyncOptions) (s : Synchronizer) :
    ((sync t db o).on s).2 = ⟨.idle, s.log ++ seen t db o, s.batches ++ asked t db o⟩ := by
  cases htables : db.tables with
  | error message => simp [on_sync_of_error htables, seen, asked, htables]
  | ok live =>
    by_cases hdry : o.force = false ∨ t.statements live o.drop = []
    · have hasked : asked t db o = [] := by
        rcases hdry with hdry | hdry <;> simp [asked, htables, hdry]
      simp [on_sync_of_dry htables hdry, seen, hasked]
    · rw [not_or, Bool.not_eq_false] at hdry
      obtain ⟨hforce, hplan⟩ := hdry
      have hasked : asked t db o = [t.statements live o.drop] := by
        simp [asked, htables, hforce, hplan]
      simp [on_sync_of_forced htables hforce hplan, seen, hasked]

/-- Synchronisations one after another, each with the database as it is then. -/
def syncs (t : Target) (requests : List (Database × SyncOptions)) (s : Synchronizer) : Synchronizer :=
  requests.foldl (fun s r => ((sync t r.1 r.2).on s).2) s

/-- Each asks for what it would ask for alone, and at the end nothing is being done. -/
theorem syncs_eq (t : Target) (requests : List (Database × SyncOptions)) (s : Synchronizer)
    (hs : s.phase = .idle) : syncs t requests s
      = ⟨.idle, s.log ++ requests.flatMap fun r => seen t r.1 r.2,
        s.batches ++ requests.flatMap fun r => asked t r.1 r.2⟩ := by
  induction requests generalizing s with
  | nil =>
    obtain ⟨phase, log, batches⟩ := s
    obtain rfl : phase = .idle := hs
    simp [syncs]
  | cons r rest ih =>
    have hfirst := after_sync t r.1 r.2 s
    change syncs t rest ((sync t r.1 r.2).on s).2 = _
    rw [ih _ (by rw [hfirst]), hfirst]
    simp

/-! ## What is run, and what is answered -/

/-- The live schema was looked up, and nothing else was asked for. -/
def OnlyLooked (before after : Synchronizer) : Prop :=
  after.log = before.log ++ [.introspection] ∧ after.batches = before.batches

/-- However a synchronisation ends, and whatever went before it, the synchroniser is idle again. No
statement is run when the live schema is not known or the plan is only to be reported; a forced plan
with statements in it is asked for as a whole, in one transaction. What is answered is the plan. -/
theorem sync_runs_plan_once (t : Target) (db : Database) (o : SyncOptions) (s : Synchronizer) :
    ∃ result after, (sync t db o).on s = (result, after) ∧ after.phase = .idle
      ∧ (o.force = false → OnlyLooked s after)
      ∧ (∀ message, db.tables = .error message →
        result = .error (.database message) ∧ OnlyLooked s after)
      ∧ ∀ live, db.tables = .ok live →
        let plan := t.statements live o.drop
        (∀ statements, result = .ok statements → statements = plan)
        ∧ (o.force = false ∨ plan = [] → result = .ok plan ∧ OnlyLooked s after)
        ∧ (o.force = true → plan ≠ [] → result = orFail (db.failure? plan) plan
          ∧ after.log = s.log ++ .introspection :: eventsFrom 0 (db.reached plan)
          ∧ after.batches = s.batches ++ [plan]) := by
  -- There is no live schema, or nothing is to be run, or a plan is forced.
  cases htables : db.tables with
  | error message =>
    refine ⟨_, _, on_sync_of_error htables o s, rfl, fun _ => ⟨rfl, rfl⟩, ?_, nofun⟩
    rintro _ ⟨⟩
    exact ⟨rfl, rfl, rfl⟩
  | ok live =>
    by_cases hdry : o.force = false ∨ t.statements live o.drop = []
    · refine ⟨_, _, on_sync_of_dry htables hdry s, rfl, fun _ => ⟨rfl, rfl⟩, nofun, ?_⟩
      rintro _ ⟨⟩ plan
      refine ⟨fun _ h => (Except.ok.inj h).symm, fun _ => ⟨rfl, rfl, rfl⟩, ?_⟩
      intro hforce hplan
      rcases hdry with hdry | hdry
      · rw [hforce] at hdry
        cases hdry
      · exact absurd hdry hplan
    · have hasked := hdry
      rw [not_or, Bool.not_eq_false] at hasked
      obtain ⟨hforce, hplan⟩ := hasked
      refine ⟨_, _, on_sync_of_forced htables hforce hplan s, rfl, ?_, nofun, ?_⟩
      · exact fun hdry' => absurd (.inl hdry') hdry
      · rintro _ ⟨⟩ plan
        refine ⟨fun _ h => of_orFail h, fun hdry' => absurd hdry' hdry, fun _ _ => ⟨rfl, rfl, rfl⟩⟩

end Step
end EntityMapper.Schema
