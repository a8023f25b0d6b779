import EntityMapper.Proofs.Call

/-!
# What calls answer

The answer of a call depends on the replies it is given: each statement it sends takes the next one.
`Ensures D c Q` says that the answer has the property `Q` whenever the rows that come back for each
statement have the property `D`.
-/

namespace EntityMapper.Call

variable {α β : Type} {D : Statement → Row → Prop} {P Q : α → Prop}

/-- The rows that come back for each statement have the property. -/
def Answered (D : Statement → Row → Prop) (replies : List Reply) (sent : List Statement) : Prop :=
  ∀ (i : Nat) (s : Statement) (rows : List Row), sent[i]? = some s → replies[i]? = some (.rows rows) →
    ∀ row ∈ rows, D s row

/-- The replies that are taken from one exchange to another have the property. -/
def Conforms (D : Statement → Row → Prop) (x y : Exchange) : Prop :=
  ∀ (i : Nat) (s : Statement) (rows : List Row), y.log[x.log.length + i]? = some (.query s) →
    x.replies[i]? = some (.rows rows) → ∀ row ∈ rows, D s row

/-- The call takes one reply for each statement, and answers as said when all replies are. -/
def Ensures (D : Statement → Row → Prop) (c : Call α) (Q : α → Prop) : Prop :=
  ∀ x, ∃ sent : List Statement, (c.on x).2.log = x.log ++ sent.map .query
    ∧ (c.on x).2.replies = x.replies.drop sent.length
    ∧ (Answered D x.replies sent → ∀ a, (c.on x).1 = .ok a → Q a)

theorem Answered.split {replies : List Reply} {sent more : List Statement}
    (h : Answered D replies (sent ++ more)) :
    Answered D replies sent ∧ Answered D (replies.drop sent.length) more := by
  refine ⟨fun i s rows hs hrows => ?_, fun i s rows hs hrows => ?_⟩
  · obtain ⟨hi, -⟩ := List.getElem?_eq_some_iff.mp hs
    refine h i s rows ?_ hrows
    rw [List.getElem?_append_left hi, hs]
  · refine h (sent.length + i) s rows ?_ ?_
    · rw [List.getElem?_append_right (Nat.le_add_right _ _), Nat.add_sub_cancel_left, hs]
    · rw [← List.getElem?_drop, hrows]

/-- What was sent stands behind the log as it was. -/
theorem getElem?_sent {x y : Exchange} {sent : List Statement}
    (hlog : y.log = x.log ++ sent.map .query) (i : Nat) (s : Statement) :
    y.log[x.log.length + i]? = some (.query s) ↔ sent[i]? = some s := by
  rw [hlog, List.getElem?_append_right (Nat.le_add_right _ _), Nat.add_sub_cancel_left,
    List.getElem?_map, Option.map_eq_some_iff]
  constructor
  · rintro ⟨t, ht, hsame⟩
    cases hsame
    exact ht
  · exact fun hs => ⟨s, hs, rfl⟩

theorem Conforms.answered {x y : Exchange} {sent : List Statement} (h : Conforms D x y)
    (hlog : y.log = x.log ++ sent.map .query) : Answered D x.replies sent := by
  intro i s rows hs hrows
  exact h i s rows ((getElem?_sent hlog i s).mpr hs) hrows

theorem answered_nil (replies : List Reply) : Answered D replies [] := nofun

theorem Answered.cons {rows : List Row} {replies : List Reply} {s : Statement} {sent : List Statement}
    (hrows : ∀ row ∈ rows, D s row) (h : Answered D replies sent) :
    Answered D (.rows rows :: replies) (s :: sent) := by
  intro i t given ht hgiven
  cases i with
  | zero =>
    cases ht
    cases hgiven
    exact hrows
  | succ i => exact h i t given ht hgiven

theorem Answered.conforms {x y : Exchange} {sent : List Statement} (h : Answered D x.replies sent)
    (hlog : y.log = x.log ++ sent.map .query) : Conforms D x y := by
  intro i s rows hs hrows
  exact h i s rows ((getElem?_sent hlog i s).mp hs) hrows

theorem Ensures.of_conforms {c : Call α} {x y : Exchange} {a : α} (hc : Ensures D c Q)
    (h : c.on x = (.ok a, y)) (hxy : Conforms D x y) : Q a := by
  obtain ⟨sent, hlog, -, hQ⟩ := hc x
  rw [h] at hlog hQ
  exact hQ (hxy.answered hlog) a rfl

/-! ## Rules -/

theorem Ensures.imp {c : Call α} (hc : Ensures D c P) (h : ∀ a, P a → Q a) : Ensures D c Q := by
  intro x
  obtain ⟨sent, hlog, hreplies, hP⟩ := hc x
  exact ⟨sent, hlog, hreplies, fun hD a ha => h a (hP hD a ha)⟩

theorem ensures_of_on_eq {c : Call α} (h : ∀ x, (c.on x).2 = x)
    (hQ : ∀ x a, (c.on x).1 = .ok a → Q a) : Ensures D c Q :=
  fun x => ⟨[], by simp [h x], by simp [h x], fun _ => hQ x⟩

theorem ensures_pure {a : α} (h : Q a) : Ensures D (pure a : Call α) Q := by
  refine ensures_of_on_eq (fun _ => rfl) ?_
  rintro x _ ⟨⟩
  exact h

theorem ensures_ofExcept {ε : Type} [Coe ε DataError] {r : Except ε α}
    (h : ∀ a, r = .ok a → Q a) : Ensures D (ofExcept r) Q := by
  cases r with
  | error e => exact ensures_of_on_eq (fun _ => rfl) nofun
  | ok a => exact ensures_pure (h a rfl)

theorem ensures_lift {r : Except DataError α} (h : ∀ a, r = .ok a → Q a) :
    Ensures D (liftM r : Call α) Q :=
  ensures_of_on_eq (fun _ => rfl) fun _ => h

theorem on_query (s : Statement) (x : Exchange) :
    ((query s).on x).2.replies = x.replies.drop 1
      ∧ ∀ rows, ((query s).on x).1 = .ok rows → rows = [] ∨ x.replies[0]? = some (.rows rows) := by
  unfold query
  have hnext : on (modifyGet fun x : Exchange => nextReply { x with log := x.log ++ [.query s] }) x
      = (.ok (nextReply { x with log := x.log ++ [.query s] }).1,
          (nextReply { x with log := x.log ++ [.query s] }).2) := rfl
  rw [on_bind_ok hnext]
  unfold nextReply
  rcases x with ⟨_ | ⟨_ | _, _⟩, _⟩
  · refine ⟨rfl, ?_⟩
    rintro _ ⟨⟩
    exact .inl rfl
  · refine ⟨rfl, ?_⟩
    rintro _ ⟨⟩
    exact .inr rfl
  · exact ⟨rfl, nofun⟩

/-- A query answers with the rows of its reply, or with none when there are no more replies. -/
theorem ensures_query {s : Statement} {Q : List Row → Prop}
    (h : ∀ rows : List Row, (∀ row ∈ rows, D s row) → Q rows) : Ensures D (query s) Q := by
  intro x
  obtain ⟨hreplies, hrows⟩ := on_query s x
  refine ⟨[s], on_query_log s x, hreplies, fun hD rows hanswer => h rows ?_⟩
  rcases hrows rows hanswer with rfl | hfirst
  · simp
  · exact hD 0 s rows rfl hfirst

theorem Ensures.bind {c : Call α} {f : α → Call β} {Q : β → Prop} (hc : Ensures D c P)
    (hf : ∀ a, Returns c a → Ensures D (f a) fun b => P a → Q b) : Ensures D (c >>= f) Q := by
  -- `f a` takes its replies whether or not those of `c` were as said: `P a` is for its answer only.
  intro x
  obtain ⟨sent, hlog, hreplies, hP⟩ := hc x
  rcases hr : c.on x with ⟨e | a, y⟩
  · rw [hr] at hlog hreplies
    rw [on_bind_error hr]
    exact ⟨sent, hlog, hreplies, nofun⟩
  · rw [hr] at hlog hreplies hP
    rw [on_bind_ok hr]
    obtain ⟨more, hmore, hrest, hQ⟩ := hf a ⟨x, y, hr⟩ y
    refine ⟨sent ++ more, ?_, ?_, fun hD b hb => ?_⟩
    · rw [hmore, hlog, List.map_append, List.append_assoc]
    · rw [hrest, hreplies, List.drop_drop, List.length_append]
    · obtain ⟨hfirst, hsecond⟩ := hD.split
      rw [← hreplies] at hsecond
      exact hQ hsecond b hb (hP hfirst a rfl)

/-- The second part may rely on what the first part can answer at all, whatever the replies are. -/
theorem Ensures.bind_returns {c : Call α} {f : α → Call β} {Q : β → Prop}
    (hc : Ensures D c fun _ => True) (hf : ∀ a, Returns c a → Ensures D (f a) Q) :
    Ensures D (c >>= f) Q :=
  hc.bind fun a ha => (hf a ha).imp fun _ hb _ => hb

theorem Ensures.map {c : Call α} {f : α → β} {Q : β → Prop} (hc : Ensures D c fun a => Q (f a)) :
    Ensures D (f <$> c) Q := by
  rw [map_eq_pure_bind]
  exact hc.bind fun a _ => ensures_pure id

end EntityMapper.Call
