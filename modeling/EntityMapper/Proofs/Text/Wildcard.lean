import EntityMapper.Text.Wildcard

/-!
# Instances of wildcards

The texts that a pattern with wildcards stands for, and a table that decides which texts these are: it
has an entry for each suffix of the text.
-/

namespace EntityMapper.Text.Wildcard

variable {ts : List Token} {c x : Char} {cs : List Char}

/-- The text is made of what the tokens stand for, one after the other. -/
inductive Instance : List Token → List Char → Prop where
  | nil : Instance [] []
  | exactly (c : Char) {ts : List Token} {cs : List Char} :
      Instance ts cs → Instance (.exactly c :: ts) (c :: cs)
  | anyOne {c : Char} {ts : List Token} {cs : List Char} :
      c ≠ '\n' → Instance ts cs → Instance (.anyOne :: ts) (c :: cs)
  | anyRun {run : List Char} {ts : List Token} {cs : List Char} :
      (∀ c ∈ run, c ≠ '\n') → Instance ts cs → Instance (.anyRun :: ts) (run ++ cs)

/-! ## The first character of an instance -/

theorem instance_nil_iff : Instance [] cs ↔ cs = [] :=
  ⟨fun h => by cases h; rfl, fun h => h ▸ .nil⟩

theorem instance_exactly_iff :
    Instance (.exactly x :: ts) cs ↔ ∃ c rest, cs = c :: rest ∧ c = x ∧ Instance ts rest := by
  constructor
  · intro h
    cases h with
    | exactly _ h => exact ⟨_, _, rfl, rfl, h⟩
  · rintro ⟨c, rest, rfl, rfl, h⟩
    exact .exactly c h

theorem instance_anyOne_iff :
    Instance (.anyOne :: ts) cs ↔ ∃ c rest, cs = c :: rest ∧ c ≠ '\n' ∧ Instance ts rest := by
  constructor
  · intro h
    cases h with
    | anyOne hc h => exact ⟨_, _, rfl, hc, h⟩
  · rintro ⟨c, rest, rfl, hc, h⟩
    exact .anyOne hc h

/-- A run is over, or goes on with the next character. -/
theorem instance_anyRun_iff :
    Instance (.anyRun :: ts) cs ↔
      Instance ts cs ∨ ∃ c rest, cs = c :: rest ∧ c ≠ '\n' ∧ Instance (.anyRun :: ts) rest := by
  constructor
  · intro h
    cases h with
    | @anyRun run _ _ hrun h =>
      cases run with
      | nil => exact .inl h
      | cons c run =>
        obtain ⟨hc, hrun⟩ := List.forall_mem_cons.mp hrun
        exact .inr ⟨c, _, rfl, hc, .anyRun hrun h⟩
  · rintro (h | ⟨c, rest, rfl, hc, h⟩)
    · exact .anyRun (List.forall_mem_nil _) h
    · cases h with
      | @anyRun run _ _ hrun h => exact .anyRun (List.forall_mem_cons.mpr ⟨hc, hrun⟩) h

/-! ## Entries -/

/-- The entries after one character that satisfies `p`: an entry holds when the character there
does and the next entry held. -/
def afterOne (p : Char → Bool) : List Char → List Bool → List Bool
  | c :: cs, _ :: held => (p c && held.headD false) :: afterOne p cs held
  | _, held => held.map fun _ => false

/-- The entries after a run: an entry holds when it held, or when the next one does and no newline
stands between. -/
def afterRun : List Char → List Bool → List Bool
  | c :: cs, b :: held =>
    let rest := afterRun cs held
    (b || (c != '\n' && rest.headD false)) :: rest
  | _, held => held

/-- One entry for each suffix of the text, the whole text first and the empty one last: whether the
suffix is an instance of the tokens. -/
def suffixes : List Token → List Char → List Bool
  | [], cs => cs.map (fun _ => false) ++ [true]
  | .exactly c :: ts, cs => afterOne (· == c) cs (suffixes ts cs)
  | .anyOne :: ts, cs => afterOne (· != '\n') cs (suffixes ts cs)
  | .anyRun :: ts, cs => afterRun cs (suffixes ts cs)

def like (pattern text : String) : Bool :=
  (suffixes (pattern.toList.map token) text.toList).headD false

/-- The entries of a text are one for the text and those of what follows its first character. -/
theorem suffixes_cons (ts : List Token) (c : Char) (cs : List Char) :
    ∃ entry, suffixes ts (c :: cs) = entry :: suffixes ts cs := by
  induction ts with
  | nil => exact ⟨false, rfl⟩
  | cons t ts ih =>
    obtain ⟨entry, hentry⟩ := ih
    cases t <;> (unfold suffixes; rw [hentry]; exact ⟨_, rfl⟩)

theorem suffixes_nil (ts : List Token) : ∃ entry, suffixes ts [] = [entry] := by
  induction ts with
  | nil => exact ⟨true, rfl⟩
  | cons t ts ih =>
    obtain ⟨entry, hentry⟩ := ih
    cases t <;> (unfold suffixes; rw [hentry]; exact ⟨_, rfl⟩)

/-- The entry of the whole text. -/
def entry (ts : List Token) (cs : List Char) : Bool := (suffixes ts cs).headD false

theorem entry_one {t : Token} {p : Char → Bool}
    (h : ∀ cs, suffixes (t :: ts) cs = afterOne p cs (suffixes ts cs)) :
    entry (t :: ts) cs = true ↔ ∃ c rest, cs = c :: rest ∧ p c = true ∧ entry ts rest = true := by
  unfold entry
  rw [h]
  cases cs with
  | nil =>
    obtain ⟨b, hb⟩ := suffixes_nil ts
    rw [hb]
    simp [afterOne]
  | cons c cs =>
    obtain ⟨b, hb⟩ := suffixes_cons ts c cs
    rw [hb]
    simp [afterOne, and_assoc]

theorem entry_anyRun :
    entry (.anyRun :: ts) cs = true ↔ entry ts cs = true
      ∨ ∃ c rest, cs = c :: rest ∧ c ≠ '\n' ∧ entry (.anyRun :: ts) rest = true := by
  unfold entry
  cases cs with
  | nil =>
    obtain ⟨b, hb⟩ := suffixes_nil ts
    simp [suffixes, hb, afterRun]
  | cons c cs =>
    obtain ⟨b, hb⟩ := suffixes_cons ts c cs
    simp [suffixes, hb, afterRun, and_assoc]

theorem entry_iff : entry ts cs = true ↔ Instance ts cs := by
  induction ts generalizing cs with
  | nil =>
    rw [instance_nil_iff]
    cases cs <;> simp [entry, suffixes]
  | cons t ts ih =>
    cases t with
    | exactly x =>
      rw [entry_one (fun _ => rfl), instance_exactly_iff]
      simp [ih]
    | anyOne =>
      rw [entry_one (fun _ => rfl), instance_anyOne_iff]
      simp [ih]
    | anyRun =>
      induction cs with
      | nil =>
        rw [entry_anyRun, instance_anyRun_iff, ih]
        simp
      | cons c cs ihRun =>
        rw [entry_anyRun, instance_anyRun_iff, ih]
        simp [and_assoc, ihRun]

theorem like_iff {pattern text : String} :
    like pattern text = true ↔ Instance (pattern.toList.map token) text.toList := entry_iff

end EntityMapper.Text.Wildcard
