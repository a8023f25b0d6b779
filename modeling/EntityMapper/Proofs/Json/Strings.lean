import EntityMapper.Json.Parser
import EntityMapper.Json.Printer
import EntityMapper.Proofs.Text.Hex

/-!
# Strings in JSON text

A string is read back from its escaped text up to the closing quote. The text in quotes is always
longer than the string it stands for.
-/

namespace EntityMapper.Json

/-! ## Escapes -/

/-- A character has an escape of one letter, or one of four digits, or stands as it is. -/
theorem escapeChar_cases (c : Char) :
    (∃ e, e ≠ 'u' ∧ simpleEscape? e = some c ∧ escapeChar c = ['\\', e])
      ∨ (c.toNat < 0x20 ∧ escapeChar c
        = ['\\', 'u', '0', '0', Text.Hex.digit (c.toNat / 16), Text.Hex.digit (c.toNat % 16)])
      ∨ (c ≠ '"' ∧ c ≠ '\\' ∧ ¬c.toNat < 0x20 ∧ escapeChar c = [c]) := by
  unfold escapeChar
  iterate 7
    split
    · subst_vars
      exact .inl ⟨_, by decide, rfl, rfl⟩
  split
  · rename_i hcontrol
    exact .inr (.inl ⟨hcontrol, rfl⟩)
  · rename_i hquote hbackslash _ _ _ _ _ hprintable
    exact .inr (.inr ⟨hquote, hbackslash, hprintable, rfl⟩)

theorem hex4?_control {n : Nat} (h : n < 0x20) :
    hex4? '0' '0' (Text.Hex.digit (n / 16)) (Text.Hex.digit (n % 16)) = some n := by
  have hzero : Text.Hex.digit? '0' = some 0 := by decide
  have hhigh := Text.Hex.digit?_digit (n := n / 16) (by omega)
  have hlow := Text.Hex.digit?_digit (n := n % 16) (by omega)
  simp only [hex4?, hzero, hhigh, hlow, Option.bind_eq_bind, Option.bind_some, Option.pure_def,
    Option.some.injEq]
  omega

theorem stringRest_escapeChar (c : Char) (rest : List Char) :
    stringRest none (escapeChar c ++ rest)
      = (stringRest none rest).map fun (cs, after) => (c :: cs, after) := by
  rcases escapeChar_cases c with ⟨e, hne, hletter, hescape⟩ | ⟨hcontrol, hescape⟩
    | ⟨hquote, hbackslash, hprintable, hescape⟩
  · rw [hescape]
    simp [stringRest, hne, hletter]
  · have hread := hex4?_control hcontrol
    have hlow : ¬(0xD800 ≤ c.toNat ∧ c.toNat ≤ 0xDBFF) := by omega
    have hhigh : ¬(0xDC00 ≤ c.toNat ∧ c.toNat ≤ 0xDFFF) := by omega
    rw [hescape]
    simp only [List.cons_append, List.nil_append]
    rw [stringRest.eq_def]
    simp only [hread, if_neg hlow, if_neg hhigh, Char.ofNat_toNat]
  · rw [hescape]
    simp [stringRest, hquote, hprintable]

theorem stringRest_chars (cs rest : List Char) :
    stringRest none (cs.flatMap escapeChar ++ '"' :: rest) = some (cs, rest) := by
  induction cs with
  | nil => simp [stringRest]
  | cons c cs ih =>
    rw [List.flatMap_cons, List.append_assoc, stringRest_escapeChar, ih]
    rfl

theorem string?_stringChars (s : String) (rest : List Char) :
    string? (stringChars s ++ rest) = some (s, rest) := by
  have hread := stringRest_chars s.toList rest
  simp [string?, stringChars, hread]

/-! ## Lengths -/

theorem length_lt_of_stringRest {high : Option Nat} {cs out after : List Char}
    (h : stringRest high cs = some (out, after)) : out.length < cs.length := by
  fun_induction stringRest high cs generalizing out after with
  | case3 a b c d more n half hn hrange ih
  | case7 a b c d more n hn hhigh hlow ih =>
    obtain ⟨⟨cs, rest⟩, hrest, hout⟩ := Option.map_eq_some_iff.mp h
    cases hout
    have hshorter := ih hrest
    simp only [List.length_cons]
    omega
  | case5 a b c d more n hn hrange ih =>
    have hshorter := ih h
    simp only [List.length_cons]
    omega
  | case8 e more hu c he ih
  | case14 c more hbackslash hquote hprintable ih =>
    obtain ⟨⟨cs, rest⟩, hrest, hout⟩ := Option.map_eq_some_iff.mp h
    cases hout
    have hshorter := ih hrest
    simp only [List.length_cons]
    omega
  | case12 =>
    cases h
    simp
  | _ => cases h

end EntityMapper.Json
