import EntityMapper.Proofs.Sql.Phrase

/-!
# The text of statements

A phrase becomes text token by token: keywords as they are, names in quotes, placeholders, and the
digits of a limit or an offset. Values of parameters are no part of the text.
-/

namespace EntityMapper

def Dialect.casts : List String :=
  ["", "::double precision", "::boolean", "::date", "::timestamptz", "::jsonb", "::integer"]

theorem Dialect.cast_mem (f : Field) : Dialect.cast f ∈ Dialect.casts := by
  unfold Dialect.cast Dialect.casts
  split <;> (try split) <;> simp

def Dialect.Placeholder : Dialect → String → Prop
  | .sqlite, t => t = "?" ∨ t = "unhex(?)"
  | .postgresql, t =>
    ∃ n : Nat, t = "decode($" ++ toString n ++ ", 'hex')"
      ∨ ∃ c ∈ Dialect.casts, t = "$" ++ toString n ++ c

theorem Dialect.placeholder_sqlite (n : Nat) (field : Option Field) :
    Dialect.placeholder .sqlite n field = "?" ∨ Dialect.placeholder .sqlite n field = "unhex(?)" := by
  unfold Dialect.placeholder
  split
  · exact .inr rfl
  · exact .inl rfl
  all_goals contradiction

theorem Dialect.placeholder_postgresql (n : Nat) (field : Option Field) :
    Dialect.placeholder .postgresql n field = "decode($" ++ toString n ++ ", 'hex')"
      ∨ ∃ c ∈ Dialect.casts, Dialect.placeholder .postgresql n field = "$" ++ toString n ++ c := by
  unfold Dialect.placeholder
  split
  · contradiction
  · contradiction
  · exact .inl rfl
  · exact .inr ⟨_, Dialect.cast_mem _, rfl⟩
  · exact .inr ⟨"", by simp [Dialect.casts], by simp; rfl⟩

theorem Dialect.placeholder_text (d : Dialect) (n : Nat) (field : Option Field) :
    d.Placeholder (d.placeholder n field) := by
  cases d with
  | sqlite => exact Dialect.placeholder_sqlite n field
  | postgresql => exact ⟨n, Dialect.placeholder_postgresql n field⟩

namespace Sql

/-- One part of a statement's text, with names that have the property `P`. -/
inductive Token (d : Dialect) (P : String → Prop) : String → Prop where
  | keyword {w : String} (hw : w ∈ keywords) : Token d P w
  | constant {w : String} (hw : w ∈ constants) : Token d P w
  | name {n : String} (hn : P n) : Token d P (Text.Quoted.quote n)
  | placeholder {t : String} (ht : d.Placeholder t) : Token d P t
  | limit (n : Nat) : Token d P (" LIMIT " ++ toString n)
  | offset (n : Nat) : Token d P (" OFFSET " ++ toString n)

/-- The text is made of tokens and nothing else. -/
def Tokens (d : Dialect) (P : String → Prop) (text : String) : Prop :=
  ∃ tokens : List String, text = String.join tokens ∧ ∀ t ∈ tokens, Token d P t

variable {d : Dialect} {P : String → Prop}

theorem Tokens.nil : Tokens d P "" := ⟨[], by simp, by simp⟩

theorem Tokens.cons {t text : String} (ht : Token d P t) (h : Tokens d P text) :
    Tokens d P (t ++ text) := by
  obtain ⟨tokens, rfl, htokens⟩ := h
  refine ⟨t :: tokens, by simp, ?_⟩
  intro u hu
  rcases List.mem_cons.mp hu with rfl | hu
  · exact ht
  · exact htokens u hu

/-- The text of a phrase is made of tokens, wherever the numbers of the parameters begin. -/
theorem Phrase.tokens {ps : List Piece} (h : Phrase P ps) (i : Nat) :
    Tokens d P (d.render i ps) := by
  induction h generalizing i with
  | nil => exact .nil
  | word hw _ ih => exact .cons (.keyword hw) (ih i)
  | constant hw _ ih => exact .cons (.constant hw) (ih i)
  | name hn _ ih => exact .cons (.name hn) (ih i)
  | parameter _ _ ih => exact .cons (.placeholder (d.placeholder_text i _)) (ih (i + 1))
  | @page limit offset ps _ ih =>
    have hpage := Tokens.cons (.limit limit) (.cons (.offset offset) (ih i))
    rw [← String.append_assoc, String.append_assoc, String.append_assoc] at hpage
    exact hpage

theorem Command.tokens {c : Command} (h : c.Named P) : Tokens d P (c.statement d).sql := by
  rw [statement_eq]
  exact (phrase h).tokens 1

end Sql
end EntityMapper
