import EntityMapper.Proofs.Call

/-!
# How many statements calls send

`SendsAtMost n c` says that the call adds at most `n` statements to the log and nothing else, whatever
the replies are, and also when the call fails on the way.
-/

namespace EntityMapper.Call

variable {α β : Type} {n k : Nat}

/-- All that the call adds to the log are so many statements at most. -/
def SendsAtMost (n : Nat) (c : Call α) : Prop := Adds (·.length ≤ n) c

theorem SendsAtMost.mono {c : Call α} (hc : SendsAtMost n c) (h : n ≤ k) : SendsAtMost k c := by
  intro x
  obtain ⟨sent, hlog, hsent⟩ := hc x
  exact ⟨sent, hlog, Nat.le_trans hsent h⟩

theorem sendsAtMost_of_log_eq {c : Call α} (h : ∀ x, (c.on x).2.log = x.log) : SendsAtMost n c :=
  fun x => ⟨[], by simpa using h x, Nat.zero_le n⟩

theorem sendsAtMost_pure (a : α) : SendsAtMost n (pure a : Call α) :=
  sendsAtMost_of_log_eq fun _ => rfl

theorem sendsAtMost_ofExcept {ε : Type} [Coe ε DataError] (r : Except ε α) :
    SendsAtMost n (ofExcept r) := sendsAtMost_of_log_eq fun _ => by cases r <;> rfl

theorem sendsAtMost_lift (r : Except DataError α) : SendsAtMost n (liftM r : Call α) :=
  sendsAtMost_of_log_eq fun _ => rfl

theorem sendsAtMost_query (s : Statement) : SendsAtMost 1 (query s) :=
  fun x => ⟨[s], on_query_log s x, Nat.le_refl 1⟩

theorem SendsAtMost.bind {c : Call α} {f : α → Call β} (hc : SendsAtMost n c)
    (hf : ∀ a, Returns c a → SendsAtMost k (f a)) : SendsAtMost (n + k) (c >>= f) :=
  Adds.bind hc hf (fun _ h => Nat.le_add_right_of_le h) fun sent more hsent hmore => by
    rw [List.length_append]
    exact Nat.add_le_add hsent hmore

/-- What is looked up first sends nothing. -/
theorem SendsAtMost.after {c : Call α} {f : α → Call β} (hc : SendsAtMost 0 c)
    (hf : ∀ a, Returns c a → SendsAtMost k (f a)) : SendsAtMost k (c >>= f) :=
  (hc.bind hf).mono (Nat.le_of_eq (Nat.zero_add k))

theorem SendsAtMost.map {c : Call α} (hc : SendsAtMost n c) (f : α → β) :
    SendsAtMost n (f <$> c) := by
  rw [map_eq_pure_bind]
  exact hc.bind (k := 0) fun _ _ => sendsAtMost_pure _

end EntityMapper.Call
