import EntityMapper.Engine.Exchange

/-!
# What calls send

A call run on an exchange only ever adds to its log. `Sends P c` says that all it adds are statements
with the property `P`, whatever the replies are, and also when the call fails on the way.
-/

namespace EntityMapper.Call

variable {α β : Type} {P : Statement → Prop}

/-- What a call answers, and how it leaves the outside. -/
def on (c : Call α) (x : Exchange) : Except DataError α × Exchange := c.run.run x

theorem on_bind (c : Call α) (f : α → Call β) (x : Exchange) :
    (c >>= f).on x =
      match c.on x with
      | (.ok a, y) => (f a).on y
      | (.error e, y) => (.error e, y) := by
  unfold on
  rw [ExceptT.run_bind, StateT.run_bind]
  change (match c.run.run x with | (r, y) => _) = _
  rcases c.run.run x with ⟨_ | _, _⟩ <;> rfl

theorem on_bind_ok {c : Call α} {f : α → Call β} {x y : Exchange} {a : α}
    (h : c.on x = (.ok a, y)) : (c >>= f).on x = (f a).on y := by
  rw [on_bind, h]

theorem on_bind_error {c : Call α} {f : α → Call β} {x y : Exchange} {e : DataError}
    (h : c.on x = (.error e, y)) : (c >>= f).on x = (.error e, y) := by
  rw [on_bind, h]

/-- What an answer was made of. -/
theorem of_on_bind {c : Call α} {f : α → Call β} {x y : Exchange} {b : β}
    (h : (c >>= f).on x = (.ok b, y)) : ∃ a z, c.on x = (.ok a, z) ∧ (f a).on z = (.ok b, y) := by
  rw [on_bind] at h
  rcases hc : c.on x with ⟨_ | a, z⟩
  · rw [hc] at h
    cases h
  · rw [hc] at h
    exact ⟨a, z, rfl, h⟩

theorem on_ofExcept_ok {ε : Type} [Coe ε DataError] (a : α) (x : Exchange) :
    (ofExcept (.ok a : Except ε α)).on x = (.ok a, x) := rfl

theorem on_lift (r : Except DataError α) (x : Exchange) : (liftM r : Call α).on x = (r, x) := rfl

theorem nextReply_log (x : Exchange) : (nextReply x).2.log = x.log := by
  unfold nextReply
  dsimp only
  split <;> rfl

/-- A query is written to the log before it is answered. -/
theorem on_query_log (s : Statement) (x : Exchange) :
    ((query s).on x).2.log = x.log ++ [.query s] := by
  refine Eq.trans ?_ (nextReply_log { x with log := x.log ++ [.query s] })
  unfold query
  generalize hr : nextReply { x with log := x.log ++ [.query s] } = r
  have h : on (modifyGet fun x : Exchange => nextReply { x with log := x.log ++ [.query s] }) x
      = (.ok r.1, r.2) := by rw [← hr]; rfl
  rw [on_bind_ok h]
  rcases r with ⟨_ | _, y⟩ <;> rfl

/-! ## Answers -/

/-- The call can answer this. -/
def Returns (c : Call α) (a : α) : Prop := ∃ x y, c.on x = (.ok a, y)

theorem returns_ofExcept {ε : Type} [Coe ε DataError] {r : Except ε α} {a : α}
    (h : Returns (ofExcept r) a) : r = .ok a := by
  obtain ⟨x, y, h⟩ := h
  cases r <;> cases h
  rfl

theorem returns_lift {r : Except DataError α} {a : α} (h : Returns (liftM r : Call α) a) :
    r = .ok a := by
  obtain ⟨x, y, h⟩ := h
  cases h
  rfl

theorem returns_pure {a b : α} (h : Returns (pure a : Call α) b) : a = b := by
  obtain ⟨x, y, h⟩ := h
  cases h
  rfl

theorem returns_bind {c : Call α} {f : α → Call β} {b : β} (h : Returns (c >>= f) b) :
    ∃ a, Returns c a ∧ Returns (f a) b := by
  obtain ⟨x, y, h⟩ := h
  obtain ⟨a, z, hc, hf⟩ := of_on_bind h
  exact ⟨a, ⟨x, z, hc⟩, z, y, hf⟩

/-! ## Failures -/

/-- The call can fail with this error. -/
def Fails (c : Call α) (error : DataError) : Prop := ∃ x y, c.on x = (.error error, y)

variable {error : DataError}

theorem not_fails_pure {a : α} : ¬Fails (pure a : Call α) error := by
  rintro ⟨x, y, h⟩
  cases h

theorem fails_throw {fault : DataError} (h : Fails (throw fault : Call α) error) : error = fault := by
  obtain ⟨x, y, h⟩ := h
  cases h
  rfl

theorem fails_lift {r : Except DataError α} (h : Fails (liftM r : Call α) error) :
    r = .error error := by
  obtain ⟨x, y, h⟩ := h
  cases h
  rfl

theorem fails_ofExcept {ε : Type} [Coe ε DataError] {r : Except ε α} (h : Fails (ofExcept r) error) :
    ∃ fault : ε, r = .error fault ∧ error = fault := by
  obtain ⟨x, y, h⟩ := h
  cases r with
  | error fault =>
    cases h
    exact ⟨fault, rfl, rfl⟩
  | ok a => cases h

theorem fails_bind {c : Call α} {f : α → Call β} (h : Fails (c >>= f) error) :
    Fails c error ∨ ∃ a, Returns c a ∧ Fails (f a) error := by
  obtain ⟨x, y, h⟩ := h
  rw [on_bind] at h
  rcases hc : c.on x with ⟨fault | a, z⟩
  · rw [hc] at h
    cases h
    exact .inl ⟨x, _, hc⟩
  · rw [hc] at h
    exact .inr ⟨a, ⟨x, z, hc⟩, z, y, h⟩

theorem fails_query {s : Statement} (h : Fails (query s) error) :
    ∃ message, error = .database message := by
  unfold query at h
  obtain h | ⟨reply, -, h⟩ := fails_bind h
  · obtain ⟨_, _, h⟩ := h
    cases h
  · cases reply with
    | rows rows => exact (not_fails_pure h).elim
    | failure message => exact ⟨message, fails_throw h⟩

/-! ## Statements sent -/

/-- All that the call adds to the log are statements, and they make up a list with this property. -/
def Adds (L : List Statement → Prop) (c : Call α) : Prop :=
  ∀ x, ∃ sent : List Statement, (c.on x).2.log = x.log ++ sent.map .query ∧ L sent

/-- The second part only has to keep to the property for what the first part can answer. -/
theorem Adds.bind {c : Call α} {f : α → Call β} {L M N : List Statement → Prop} (hc : Adds L c)
    (hf : ∀ a, Returns c a → Adds M (f a)) (hstop : ∀ sent, L sent → N sent)
    (happend : ∀ sent more, L sent → M more → N (sent ++ more)) : Adds N (c >>= f) := by
  intro x
  obtain ⟨sent, hlog, hsent⟩ := hc x
  rcases hr : c.on x with ⟨e | a, y⟩
  · rw [hr] at hlog
    exact ⟨sent, by rw [on_bind_error hr, hlog], hstop sent hsent⟩
  · obtain ⟨more, hmore, hmoreM⟩ := hf a ⟨x, y, hr⟩ y
    rw [hr] at hlog
    refine ⟨sent ++ more, ?_, happend sent more hsent hmoreM⟩
    rw [on_bind_ok hr, hmore, hlog, List.map_append, List.append_assoc]

/-- All that the call adds to the log are statements with this property. -/
def Sends (P : Statement → Prop) (c : Call α) : Prop :=
  ∀ x, ∃ sent : List Statement, (c.on x).2.log = x.log ++ sent.map .query ∧ ∀ s ∈ sent, P s

theorem sends_of_log_eq {c : Call α} (h : ∀ x, (c.on x).2.log = x.log) : Sends P c :=
  fun x => ⟨[], by simpa using h x, by simp⟩

theorem sends_pure (a : α) : Sends P (pure a : Call α) := sends_of_log_eq fun _ => rfl

theorem sends_ofExcept {ε : Type} [Coe ε DataError] (r : Except ε α) : Sends P (ofExcept r) :=
  sends_of_log_eq fun _ => by cases r <;> rfl

theorem sends_lift (r : Except DataError α) : Sends P (liftM r : Call α) :=
  sends_of_log_eq fun _ => rfl

theorem sends_throw (e : DataError) : Sends P (throw e : Call α) := sends_of_log_eq fun _ => rfl

theorem sends_drawKey (keys : Nat → String) : Sends P (drawKey keys) := sends_of_log_eq fun _ => rfl

theorem sends_generate (key entity : String) (row : Option Json) : Sends P (generate key entity row) :=
  sends_of_log_eq fun _ => rfl

theorem sends_query {s : Statement} (h : P s) : Sends P (query s) :=
  fun x => ⟨[s], on_query_log s x, by simpa using h⟩

theorem Sends.bind {c : Call α} {f : α → Call β} (hc : Sends P c)
    (hf : ∀ a, Returns c a → Sends P (f a)) : Sends P (c >>= f) :=
  Adds.bind hc hf (fun _ h => h) fun _ _ hsent hmore => List.forall_mem_append.mpr ⟨hsent, hmore⟩

theorem Sends.map {c : Call α} (hc : Sends P c) (f : α → β) : Sends P (f <$> c) := by
  rw [map_eq_pure_bind]
  exact hc.bind fun _ _ => sends_pure _

/-- A query that begins a call is the first thing the call adds to the log. -/
theorem query_bind_log (s : Statement) {f : List Row → Call β} (hf : ∀ rows, Sends P (f rows))
    (x : Exchange) : ∃ later, ((query s >>= f).on x).2.log = x.log ++ .query s :: later := by
  have hlog := on_query_log s x
  rcases hr : (query s).on x with ⟨e | rows, y⟩
  · rw [hr] at hlog
    exact ⟨[], by rw [on_bind_error hr, hlog]⟩
  · rw [hr] at hlog
    obtain ⟨sent, hsent, -⟩ := hf rows y
    refine ⟨sent.map .query, ?_⟩
    rw [on_bind_ok hr, hsent, hlog, List.append_assoc, List.singleton_append]

end EntityMapper.Call
