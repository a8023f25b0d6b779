import EntityMapper.Filter.Validator
import EntityMapper.Pattern.Parser
import EntityMapper.Proofs.Pattern.Matching
import EntityMapper.Proofs.Text.Wildcard

/-!
# Wildcards as regular expressions

A pattern with wildcards is written as a regular expression, character by character. The texts with an
instance of the expression are those that the wildcards stand for.
-/

namespace EntityMapper.Text.Wildcard

open Pattern

variable {t : Token} {ts : List Token} {c : Char} {rest : List Char}

/-! ## What the expression is read as -/

/-- All characters but the newline. -/
def dot : CharClass := .complement (.single '\n')

def Token.pattern : Token → Pattern
  | .anyRun => .repeated (.char dot) 0 none
  | .anyOne => .char dot
  | .exactly c => .char (.single c)

def Token.depth : Token → Nat
  | .anyRun => 1
  | _ => 0

def Token.item (t : Token) : Item := .part t.pattern t.depth

def readingRest (ts : List Token) : Pattern :=
  ts.foldr (fun t rest => .seq t.pattern rest) (.seq (.anchor .textEnd) .empty)

/-- The pattern that the expression is read as. -/
def reading (pattern : String) : Pattern :=
  .seq (.anchor .textStart) (readingRest (pattern.toList.map token))

theorem expressionRest_cons (t : Token) (ts : List Token) :
    expressionRest (t :: ts) = t.expression ++ expressionRest ts := by
  simp [expressionRest]

/-- No token begins with a question mark, so none is taken for a mark of the repetition before it. -/
theorem dropLazyMark_expressionRest (ts : List Token) :
    dropLazyMark (expressionRest ts) = expressionRest ts := by
  cases ts with
  | nil => rfl
  | cons t ts =>
    rw [expressionRest_cons]
    cases t with
    | exactly c =>
      simp only [Token.expression]
      split
      · rfl
      · rename_i hc
        unfold dropLazyMark
        split
        · rename_i heq
          obtain ⟨rfl, -⟩ := List.cons.inj heq
          exact absurd (by decide) hc
        · rfl
    | _ => rfl

theorem escape?_meta (h : c ∈ metaChars) (f : Flags) :
    escape? f (c :: rest) = some (.literal c, rest) := by
  revert c
  simp only [metaChars, List.forall_mem_cons]
  refine ⟨rfl, rfl, rfl, rfl, rfl, rfl, rfl, rfl, rfl, rfl, rfl, rfl, rfl, rfl, rfl, rfl, rfl, rfl, ?_⟩
  exact List.forall_mem_nil _

theorem groupRest?_plain (h : c ∉ metaChars) (fuel : Nat) (o : OpenGroup) (ho : o.flags = {}) :
    groupRest? (fuel + 1) o (c :: rest) = groupRest? fuel (o.push (.char (.single c)) 0) rest := by
  obtain ⟨branches, deepest, items, flags, names⟩ := o
  obtain rfl : flags = {} := ho
  have hskip : Flags.skip {} (c :: rest) = c :: rest := rfl
  rw [groupRest?]
  simp only [hskip]
  split
  case h_1 heq => cases heq
  case h_14 heq =>
    obtain ⟨rfl, rfl⟩ := List.cons.inj heq
    rfl
  -- In all other cases the character is one of those with a meaning.
  all_goals
    rename_i heq
    exact absurd ((List.cons.inj heq).1 ▸ by decide) h

/-- A token is read as one item, with no less fuel left than characters. -/
theorem groupRest?_token {left fuel : Nat} {o : OpenGroup} (t : Token) (ts : List Token)
    (ho : o.flags = {}) (hfuel : t.expression.length + left < fuel) :
    ∃ more, left < more ∧ groupRest? fuel o (t.expression ++ expressionRest ts)
      = groupRest? more { o with items := t.item :: o.items } (expressionRest ts) := by
  obtain ⟨branches, deepest, items, flags, names⟩ := o
  obtain rfl : flags = {} := ho
  cases t with
  | anyRun =>
    have hfuel : 2 + left < fuel := hfuel
    obtain ⟨more, rfl⟩ : ∃ more, fuel = more + 2 := ⟨fuel - 2, by omega⟩
    refine ⟨more, by omega, ?_⟩
    change groupRest? more _ (dropLazyMark (expressionRest ts)) = _
    rw [dropLazyMark_expressionRest]
    rfl
  | anyOne =>
    have hfuel : 1 + left < fuel := hfuel
    obtain ⟨more, rfl⟩ : ∃ more, fuel = more + 1 := ⟨fuel - 1, by omega⟩
    exact ⟨more, by omega, rfl⟩
  | exactly c =>
    obtain ⟨more, rfl⟩ : ∃ more, fuel = more + 1 := ⟨fuel - 1, by omega⟩
    by_cases hc : c ∈ metaChars
    · rw [Token.expression, if_pos hc] at hfuel ⊢
      have hfuel : 2 + left < more + 1 := hfuel
      refine ⟨more, by omega, ?_⟩
      change (escape? {} (c :: expressionRest ts)).bind _ = _
      rw [escape?_meta hc]
      rfl
    · rw [Token.expression, if_neg hc] at hfuel ⊢
      have hfuel : 1 + left < more + 1 := hfuel
      exact ⟨more, by omega, groupRest?_plain hc more _ rfl⟩

/-- The parts of the expression are read one after the other. -/
theorem groupRest?_tokens (fuel : Nat) (o : OpenGroup) (ho : o.flags = {})
    (hfuel : (expressionRest ts).length < fuel) :
    groupRest? fuel o (expressionRest ts)
      = some ({ o with
          items := .part (.anchor .textEnd) 0 :: ((ts.map Token.item).reverse ++ o.items) }, []) := by
  induction ts generalizing fuel o with
  | nil =>
    have hfuel : 1 < fuel := hfuel
    obtain ⟨fuel, rfl⟩ : ∃ more, fuel = more + 2 := ⟨fuel - 2, by omega⟩
    obtain ⟨branches, deepest, items, flags, names⟩ := o
    obtain rfl : flags = {} := ho
    rfl
  | cons t ts ih =>
    rw [expressionRest_cons] at hfuel ⊢
    rw [List.length_append] at hfuel
    obtain ⟨more, hmore, hread⟩ := groupRest?_token t ts ho hfuel
    rw [hread, ih more { o with items := t.item :: o.items } ho hmore]
    simp

/-- The group that the expression is read as. -/
def wholeGroup (ts : List Token) : OpenGroup :=
  { items := .part (.anchor .textEnd) 0 :: ((ts.map Token.item).reverse ++ [.part (.anchor .textStart) 0]) }

theorem value_wholeGroup (ts : List Token) :
    (wholeGroup ts).value = .seq (.anchor .textStart) (readingRest ts) := by
  change List.foldl _ (Pattern.seq (.anchor .textEnd) .empty) _ = _
  rw [List.foldl_append, List.foldl_reverse, List.foldr_map]
  rfl

theorem depth_of_mem_wholeGroup {item : Item} (h : item ∈ (wholeGroup ts).items) : item.depth ≤ 1 := by
  rcases List.mem_cons.mp h with rfl | h
  · exact Nat.zero_le 1
  · rcases List.mem_append.mp h with h | h
    · obtain ⟨t, -, rfl⟩ := List.mem_map.mp (List.mem_reverse.mp h)
      cases t <;> simp [Token.item, Item.depth, Token.depth]
    · rw [List.mem_singleton.mp h]
      exact Nat.zero_le 1

theorem depth_wholeGroup_eq (ts : List Token) :
    (wholeGroup ts).depth = ((wholeGroup ts).items.map Item.depth).foldl max 0 + 1 := by
  obtain ⟨item, more, hmore⟩ := List.exists_cons_of_ne_nil (List.append_ne_nil_of_right_ne_nil
    (ts.map Token.item).reverse (List.cons_ne_nil (Item.part (.anchor .textStart) 0) []))
  have hseveral : (wholeGroup ts).items = .part (.anchor .textEnd) 0 :: item :: more :=
    congrArg (Item.part (.anchor .textEnd) 0 :: ·) hmore
  change OpenGroup.sequenceDepth _ = _
  unfold OpenGroup.sequenceDepth
  rw [hseveral]

theorem depth_wholeGroup (ts : List Token) : (wholeGroup ts).depth ≤ depthLimit := by
  have hdeepest : ((wholeGroup ts).items.map Item.depth).foldl max 0 ≤ 1 := by
    rw [List.foldl_max]
    refine Nat.max_le.mpr ⟨Nat.zero_le 1, ?_⟩
    cases hmost : ((wholeGroup ts).items.map Item.depth).max? with
    | none => exact Nat.zero_le 1
    | some most =>
      obtain ⟨item, hitem, rfl⟩ := List.mem_map.mp (List.max?_mem hmost)
      exact depth_of_mem_wholeGroup hitem
  rw [depth_wholeGroup_eq]
  exact Nat.le_trans (Nat.succ_le_succ hdeepest) (by decide)

/-- The expression is read as the pattern of the tokens, or refused for its size alone. -/
theorem parse?_expression (pattern : String) :
    parse? (expression pattern)
      = if weight (reading pattern) ≤ weightLimit then some (reading pattern) else none := by
  have hread : groupRest? ((expression pattern).toList.length + 1) {} (expression pattern).toList
      = some (wholeGroup (pattern.toList.map token), []) := by
    unfold expression
    rw [String.toList_ofList]
    exact groupRest?_tokens _ (OpenGroup.push {} (.anchor .textStart) 0) rfl (Nat.lt_succ_self _)
  unfold parse?
  dsimp only
  rw [hread]
  dsimp only
  rw [value_wholeGroup]
  simp only [depth_wholeGroup, true_and]
  rfl

example : expression "1.5_*" = "^1\\.5..*$" := by decide

/-! ## Instances -/

variable {p q : Place}

theorem contains_single {x : Char} : (CharClass.single x).contains c = true ↔ c = x := by
  simp only [CharClass.single, CharClass.contains, Bool.and_eq_true, decide_eq_true_eq]
  constructor
  · rintro ⟨hle, hge⟩
    exact Char.toNat_inj.mp (Nat.le_antisymm hge hle)
  · rintro rfl
    exact ⟨Nat.le_refl _, Nat.le_refl _⟩

theorem contains_dot : dot.contains c = true ↔ c ≠ '\n' := by
  simp only [dot, CharClass.contains, Bool.not_eq_true', ← Bool.not_eq_true]
  exact not_congr contains_single

theorem spans_anyRun {n : Nat} (h : Times (Spans (.char dot)) n p q) (hrest : Instance ts q.after) :
    Instance (.anyRun :: ts) p.after := by
  induction n generalizing p with
  | zero =>
    obtain rfl : p = q := h
    exact instance_anyRun_iff.mpr (.inl hrest)
  | succ n ih =>
    obtain ⟨between, hfirst, hmore⟩ := h
    obtain ⟨c, rest, hafter, hc, rfl⟩ := Place.advance?_eq_some_iff.mp hfirst
    exact instance_anyRun_iff.mpr (.inr ⟨c, rest, hafter, contains_dot.mp hc, ih hmore⟩)

theorem exists_run {run rest : List Char} (hrun : ∀ c ∈ run, c ≠ '\n') (hp : p.after = run ++ rest) :
    ∃ q, Times (Spans (.char dot)) run.length p q ∧ q.after = rest := by
  induction run generalizing p with
  | nil => exact ⟨p, rfl, hp⟩
  | cons c run ih =>
    obtain ⟨hc, hrun⟩ := List.forall_mem_cons.mp hrun
    have hstep : p.advance? dot = some ⟨p.index + 1, c :: p.before, run ++ rest⟩ :=
      Place.advance?_eq_some_iff.mpr ⟨c, run ++ rest, hp, contains_dot.mpr hc, rfl⟩
    obtain ⟨q, hq, hrest⟩ := ih (p := ⟨p.index + 1, c :: p.before, run ++ rest⟩) hrun rfl
    exact ⟨q, ⟨_, hstep, hq⟩, hrest⟩

theorem spans_char {cls : CharClass} {follows : List Char → Prop} :
    (∃ q, Spans (.char cls) p q ∧ follows q.after)
      ↔ ∃ c rest, p.after = c :: rest ∧ cls.contains c = true ∧ follows rest := by
  constructor
  · rintro ⟨q, hspans, hrest⟩
    obtain ⟨c, rest, hafter, hc, rfl⟩ := Place.advance?_eq_some_iff.mp hspans
    exact ⟨c, rest, hafter, hc, hrest⟩
  · rintro ⟨c, rest, hafter, hc, hrest⟩
    exact ⟨_, Place.advance?_eq_some_iff.mpr ⟨c, rest, hafter, hc, rfl⟩, hrest⟩

/-- An instance of a token, and then one of the others. -/
theorem spans_token (t : Token) :
    (∃ q, t.pattern.Spans p q ∧ Instance ts q.after) ↔ Instance (t :: ts) p.after := by
  cases t with
  | exactly x =>
    rw [instance_exactly_iff, Token.pattern, spans_char]
    simp only [contains_single]
  | anyOne =>
    rw [instance_anyOne_iff, Token.pattern, spans_char]
    simp only [contains_dot]
  | anyRun =>
    constructor
    · rintro ⟨q, ⟨n, -, htimes⟩, hrest⟩
      exact spans_anyRun htimes hrest
    · intro h
      generalize hafter : p.after = cs at h
      cases h with
      | @anyRun run _ rest hrun hrest =>
        obtain ⟨q, hq, rfl⟩ := exists_run hrun hafter
        refine ⟨q, ⟨run.length, ?_, ?_⟩, hrest⟩
        · rintro n ⟨⟩
        · rwa [Nat.zero_add]

theorem spans_readingRest : (∃ q, (readingRest ts).Spans p q) ↔ Instance ts p.after := by
  induction ts generalizing p with
  | nil =>
    rw [instance_nil_iff]
    constructor
    · rintro ⟨q, _, ⟨hend, -⟩, -⟩
      exact List.isEmpty_iff.mp hend
    · intro hend
      exact ⟨p, p, ⟨List.isEmpty_iff.mpr hend, rfl⟩, rfl⟩
  | cons t ts ih =>
    rw [← spans_token]
    constructor
    · rintro ⟨q, between, hfirst, hrest⟩
      exact ⟨between, hfirst, ih.mp ⟨q, hrest⟩⟩
    · rintro ⟨between, hfirst, hrest⟩
      obtain ⟨q, hq⟩ := ih.mpr hrest
      exact ⟨q, between, hfirst, hq⟩

/-- The anchors leave no part of the text out. -/
theorem occursIn_reading {pattern text : String} :
    (reading pattern).occursIn text = true ↔ Instance (pattern.toList.map token) text.toList := by
  rw [occursIn_iff]
  constructor
  · rintro ⟨p, q, hp, _, ⟨hstart, rfl⟩, hrest⟩
    have hparts := hp.parts
    rw [List.isEmpty_iff.mp hstart, List.reverse_nil, List.nil_append] at hparts
    rw [← hparts]
    exact spans_readingRest.mp ⟨q, hrest⟩
  · intro h
    obtain ⟨q, hq⟩ := spans_readingRest (p := ⟨0, [], text.toList⟩).mpr h
    exact ⟨_, q, ⟨rfl, rfl⟩, _, ⟨rfl, rfl⟩, hq⟩

end EntityMapper.Text.Wildcard

namespace EntityMapper.Validator

open Text Text.Wildcard Pattern

theorem satisfies_like (pattern actual : Json) :
    default.satisfies actual ("$like", pattern) = Operator.like pattern actual := by
  have hfound : default.operator? "$like" = some ⟨"$like", Json.isStr, Operator.like⟩ := rfl
  unfold satisfies
  rw [hfound]

/-- A text satisfies `$like` exactly when the whole of it is an instance of the operand. The operand is
matched by a regular expression, which is refused for its size alone. -/
theorem like_iff_instance (pattern text : String) :
    default.satisfies (.str text) ("$like", .str pattern)
        = ((parse? (expression pattern)).isSome && like pattern text)
      ∧ (like pattern text = true ↔ Instance (pattern.toList.map token) text.toList)
      ∧ parse? (expression pattern)
        = (if weight (reading pattern) ≤ weightLimit then some (reading pattern) else none)
      ∧ ((reading pattern).occursIn text = true
        ↔ Instance (pattern.toList.map token) text.toList) := by
  refine ⟨?_, like_iff, parse?_expression pattern, occursIn_reading⟩
  rw [satisfies_like]
  change Operator.matchesExpression (expression pattern) text = _
  unfold Operator.matchesExpression
  rw [parse?_expression]
  by_cases hsize : weight (reading pattern) ≤ weightLimit
  · rw [if_pos hsize, Option.isSome_some, Bool.true_and, Bool.eq_iff_iff, like_iff]
    exact occursIn_reading
  · rw [if_neg hsize]
    rfl

end EntityMapper.Validator
