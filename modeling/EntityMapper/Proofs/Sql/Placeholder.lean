import EntityMapper.Proofs.Sql.Text
import EntityMapper.Proofs.Text.Decimal

/-!
# Placeholders in the text of statements

Read from left to right, and passing over quoted names, the text of a statement has as many
placeholders as there are parameters; where they are numbered, they count up from one. In the column
list of an INSERT and the changes of an UPDATE, column, placeholder and parameter at one place belong
to one field.
-/

namespace EntityMapper.Sql

open Text

/-! ## Reading placeholders -/

/-- The text outside quoted names. Of the names only their quotes are left. -/
def outsideNames : Bool → List Char → List Char
  | _, [] => []
  | quoted, c :: cs =>
    if c = '"' then c :: outsideNames (!quoted) cs
    else if quoted then outsideNames quoted cs
    else c :: outsideNames quoted cs

/-- The numbers that follow dollar signs, in order. -/
def dollarNumbers : List Char → List Nat
  | [] => []
  | c :: cs =>
    if c = '$' then Decimal.valueOf (cs.takeWhile Decimal.isDigit) :: dollarNumbers cs
    else dollarNumbers cs

/-- The placeholders of the text are those of the parameters, in their order. -/
def Numbered (d : Dialect) (s : Statement) : Prop :=
  match d with
  | .sqlite => (outsideNames false s.sql.toList).count '?' = s.parameters.length
  | .postgresql =>
    dollarNumbers (outsideNames false s.sql.toList) = List.range' 1 s.parameters.length

/-- Characters that are neither quotes nor marks of placeholders. -/
def Plain (cs : List Char) : Prop := ∀ c ∈ cs, c ≠ '"' ∧ c ≠ '?' ∧ c ≠ '$'

instance (cs : List Char) : Decidable (Plain cs) := List.decidableBAll _ cs

theorem Plain.noQuote {cs : List Char} (h : Plain cs) : '"' ∉ cs := fun hc => (h _ hc).1 rfl

/-- The text does not go on with a digit. -/
def Detached (cs : List Char) : Prop := ∀ c ∈ cs.head?, Decimal.isDigit c = false

instance (cs : List Char) : Decidable (Detached cs) := Option.decidableForallMem _

theorem Detached.append {cs rest : List Char} (h : Detached cs) (hrest : Detached rest) :
    Detached (cs ++ rest) := by
  cases cs with
  | nil => exact hrest
  | cons c cs => exact h

theorem outsideNames_append {cs : List Char} (h : '"' ∉ cs) (rest : List Char) :
    outsideNames false (cs ++ rest) = cs ++ outsideNames false rest := by
  induction cs with
  | nil => rfl
  | cons c cs ih =>
    rw [List.mem_cons, not_or] at h
    rw [List.cons_append, outsideNames, if_neg (Ne.symm h.1), if_neg (by simp), ih h.2,
      List.cons_append]

theorem outsideNames_escape (cs rest : List Char) :
    ∃ n, outsideNames true (Quoted.escape cs ++ '"' :: rest)
      = List.replicate (n + 1) '"' ++ outsideNames false rest := by
  induction cs with
  | nil => exact ⟨0, rfl⟩
  | cons c cs ih =>
    obtain ⟨n, ih⟩ := ih
    unfold Quoted.escape
    split
    · -- the two quotes of one character close the name and open it again
      refine ⟨n + 2, ?_⟩
      simp only [List.cons_append, outsideNames, if_true, Bool.not_true, Bool.not_false, ih]
      simp [List.replicate_succ]
    · rename_i hc
      refine ⟨n, ?_⟩
      rw [List.cons_append, outsideNames, if_neg hc, if_pos rfl, ih]

theorem outsideNames_quote (name : String) (rest : List Char) :
    ∃ n, outsideNames false ((Quoted.quote name).toList ++ rest)
      = List.replicate (n + 1) '"' ++ outsideNames false rest := by
  obtain ⟨n, h⟩ := outsideNames_escape name.toList rest
  refine ⟨n + 1, ?_⟩
  unfold Quoted.quote
  simp only [String.toList_ofList, List.cons_append, List.append_assoc, List.nil_append,
    outsideNames, if_true, Bool.not_false, h]
  simp [List.replicate_succ]

theorem dollarNumbers_plain {cs : List Char} (h : Plain cs) (rest : List Char) :
    dollarNumbers (cs ++ rest) = dollarNumbers rest := by
  induction cs with
  | nil => rfl
  | cons c cs ih =>
    have hc := (h c List.mem_cons_self).2.2
    rw [List.cons_append, dollarNumbers, if_neg hc, ih fun e he => h e (List.mem_cons_of_mem _ he)]

theorem dollarNumbers_replicate_quote (n : Nat) (rest : List Char) :
    dollarNumbers (List.replicate n '"' ++ rest) = dollarNumbers rest := by
  induction n with
  | zero => rfl
  | succ n ih =>
    rw [List.replicate_succ, List.cons_append, dollarNumbers, if_neg (by decide), ih]

theorem count_plain {cs : List Char} (h : Plain cs) : cs.count '?' = 0 :=
  List.count_eq_zero.mpr fun hc => (h _ hc).2.1 rfl

/-! ## Words and numbers -/

theorem Plain.append {cs ds : List Char} (hcs : Plain cs) (hds : Plain ds) : Plain (cs ++ ds) := by
  intro c hc
  rcases List.mem_append.mp hc with hc | hc
  · exact hcs c hc
  · exact hds c hc

theorem plain_of_keyword {w : String} (hw : w ∈ keywords) : Plain w.toList := by
  have : ∀ w ∈ keywords, Plain w.toList := by decide
  exact this w hw

theorem plain_of_constant {w : String} (hw : w ∈ constants) : Plain w.toList := by
  have : ∀ w ∈ constants, Plain w.toList := by decide
  exact this w hw

theorem plain_of_cast {c : String} (hc : c ∈ Dialect.casts) : Plain c.toList := by
  have : ∀ w ∈ Dialect.casts, Plain w.toList := by decide
  exact this c hc

theorem detached_of_cast {c : String} (hc : c ∈ Dialect.casts) : Detached c.toList := by
  have : ∀ w ∈ Dialect.casts, Detached w.toList := by decide
  exact this c hc

theorem plain_digits (n : Nat) : Plain (Decimal.digits n) := by
  intro c hc
  have h := Decimal.isDigit_of_mem_digits hc
  refine ⟨?_, ?_, ?_⟩ <;> rintro rfl <;> exact absurd h (by decide)

/-- A word with something in it settles by itself whether a digit comes next. -/
theorem detached_of_keyword {w : String} (hw : w ∈ keywords ∨ w = " LIMIT ") (rest : List Char) :
    Detached (w.toList ++ rest) := by
  have hall : ∀ w ∈ " LIMIT " :: keywords,
      w.toList.head?.map Decimal.isDigit = some false := by decide
  have hhead := hall w (by rcases hw with hw | rfl <;> simp_all)
  cases hcs : w.toList with
  | nil => rw [hcs] at hhead; cases hhead
  | cons c cs =>
    rw [hcs] at hhead
    intro e he
    cases he
    simpa using hhead

theorem plain_page (limit offset : Nat) :
    Plain (" LIMIT ".toList ++ Decimal.digits limit ++ " OFFSET ".toList ++ Decimal.digits offset) := by
  have hlimit : Plain " LIMIT ".toList := by decide
  have hoffset : Plain " OFFSET ".toList := by decide
  exact ((hlimit.append (plain_digits limit)).append hoffset).append (plain_digits offset)

/-! ## Placeholders -/

/-- A numbered placeholder is its number behind a dollar sign, among plain text. -/
theorem numbered_placeholder (n : Nat) (field : Option Field) :
    ∃ before after : List Char,
      (Dialect.placeholder .postgresql n field).toList = before ++ '$' :: (Decimal.digits n ++ after)
        ∧ Plain before ∧ Plain after ∧ Detached before ∧ Detached after := by
  have hdigits : (toString n).toList = Decimal.digits n := Nat.toList_repr
  rcases Dialect.placeholder_postgresql n field with h | ⟨c, hc, h⟩
  · refine ⟨"decode(".toList, ", 'hex')".toList, ?_, ?_⟩
    · rw [h, String.toList_append, String.toList_append, hdigits]
      rfl
    · decide
  · refine ⟨[], c.toList, ?_, by simp [Plain], plain_of_cast hc, by simp [Detached],
      detached_of_cast hc⟩
    rw [h, String.toList_append, String.toList_append, hdigits]
    rfl

theorem bare_placeholder (n : Nat) (field : Option Field) :
    ∃ before after : List Char,
      (Dialect.placeholder .sqlite n field).toList = before ++ '?' :: after
        ∧ Plain before ∧ Plain after := by
  rcases Dialect.placeholder_sqlite n field with h | h <;> rw [h]
  · exact ⟨[], [], by decide⟩
  · exact ⟨"unhex(".toList, [')'], by decide⟩

theorem noQuote_placeholder (d : Dialect) (n : Nat) (field : Option Field) :
    '"' ∉ (d.placeholder n field).toList := by
  cases d with
  | sqlite =>
    obtain ⟨before, after, h, hbefore, hafter⟩ := bare_placeholder n field
    simp [h, hbefore.noQuote, hafter.noQuote]
  | postgresql =>
    obtain ⟨before, after, h, hbefore, hafter, -⟩ := numbered_placeholder n field
    simp [h, hbefore.noQuote, hafter.noQuote, (plain_digits n).noQuote]

/-! ## Statements -/

variable {P : String → Prop} {ps : List Piece}

theorem render_page (d : Dialect) (i limit offset : Nat) (ps : List Piece) :
    (d.render i (.word " LIMIT " :: .number limit :: .word " OFFSET " :: .number offset :: ps)).toList
      = (" LIMIT ".toList ++ Decimal.digits limit ++ " OFFSET ".toList ++ Decimal.digits offset)
        ++ (d.render i ps).toList := by
  simp only [Dialect.render_word, Dialect.render_number, String.toList_append, String.toList_ofList,
    List.append_assoc]

/-- The text of what begins properly can follow a number. -/
theorem detached_of_begins (h : Begins ps) (i : Nat) :
    Detached (outsideNames false (Dialect.render .postgresql i ps).toList) := by
  unfold Begins at h
  split at h
  · rename_i w rest
    have hw : Plain w.toList := by
      rcases h with h | rfl
      · exact plain_of_keyword h
      · decide
    rw [Dialect.render_word, String.toList_append, outsideNames_append hw.noQuote]
    exact detached_of_keyword h _
  · contradiction
  · rename_i hword hnumber
    cases ps with
    | nil => simp [Dialect.render, outsideNames, Detached]
    | cons p rest =>
      cases p with
      | word w => exact absurd rfl (hword w rest)
      | number n => exact absurd rfl (hnumber n rest)
      | name n =>
        rw [Dialect.render_name, String.toList_append]
        obtain ⟨k, hk⟩ := outsideNames_quote n (Dialect.render .postgresql i rest).toList
        rw [hk, List.replicate_succ, List.cons_append]
        unfold Detached
        simp only [List.head?_cons, Option.mem_some_iff, forall_eq']
        decide
      | parameter v f =>
        rw [Dialect.render_parameter, String.toList_append,
          outsideNames_append (noQuote_placeholder _ _ _)]
        obtain ⟨before, after, htext, -, -, hbefore, -⟩ := numbered_placeholder i f
        rw [htext, List.append_assoc]
        refine hbefore.append ?_
        unfold Detached
        simp only [List.cons_append, List.head?_cons, Option.mem_some_iff, forall_eq']
        decide

/-- A phrase has a question mark for each of its parameters. -/
theorem Phrase.count_marks (h : Phrase P ps) (i : Nat) :
    (outsideNames false (Dialect.render .sqlite i ps).toList).count '?' = (parameters ps).length := by
  induction h generalizing i with
  | nil => rfl
  | word hw _ ih =>
    have hplain := plain_of_keyword hw
    rw [Dialect.render_word, String.toList_append, outsideNames_append hplain.noQuote,
      List.count_append, count_plain hplain, Nat.zero_add, ih i]
    rfl
  | constant hw _ ih =>
    have hplain := plain_of_constant hw
    rw [Dialect.render_word, String.toList_append, outsideNames_append hplain.noQuote,
      List.count_append, count_plain hplain, Nat.zero_add, ih i]
    rfl
  | @name n ps _ _ ih =>
    rw [Dialect.render_name, String.toList_append]
    obtain ⟨k, hk⟩ := outsideNames_quote n (Dialect.render .sqlite i ps).toList
    rw [hk, List.count_append, List.count_replicate, if_neg (by decide), Nat.zero_add, ih i]
    rfl
  | @parameter v f ps _ _ ih =>
    rw [Dialect.render_parameter, String.toList_append,
      outsideNames_append (noQuote_placeholder _ _ _), List.count_append, ih (i + 1)]
    obtain ⟨before, after, htext, hbefore, hafter⟩ := bare_placeholder i f
    rw [htext, List.count_append, List.count_cons_self, count_plain hbefore, count_plain hafter]
    simp only [parameters, List.filterMap_cons, List.length_cons]
    omega
  | @page limit offset ps _ ih =>
    have hplain := plain_page limit offset
    rw [render_page, outsideNames_append hplain.noQuote, List.count_append, count_plain hplain,
      Nat.zero_add, ih i]
    rfl

/-- The numbers of the placeholders of a phrase count up from where they begin. -/
theorem Phrase.numbers (h : Phrase P ps) (i : Nat) :
    dollarNumbers (outsideNames false (Dialect.render .postgresql i ps).toList)
      = List.range' i (parameters ps).length := by
  induction h generalizing i with
  | nil => rfl
  | word hw _ ih =>
    have hplain := plain_of_keyword hw
    rw [Dialect.render_word, String.toList_append, outsideNames_append hplain.noQuote,
      dollarNumbers_plain hplain, ih i]
    rfl
  | constant hw _ ih =>
    have hplain := plain_of_constant hw
    rw [Dialect.render_word, String.toList_append, outsideNames_append hplain.noQuote,
      dollarNumbers_plain hplain, ih i]
    rfl
  | @name n ps _ _ ih =>
    rw [Dialect.render_name, String.toList_append]
    obtain ⟨k, hk⟩ := outsideNames_quote n (Dialect.render .postgresql i ps).toList
    rw [hk, dollarNumbers_replicate_quote, ih i]
    rfl
  | @parameter v f ps hb _ ih =>
    rw [Dialect.render_parameter, String.toList_append,
      outsideNames_append (noQuote_placeholder _ _ _)]
    obtain ⟨before, after, htext, hbefore, hafter, -, hdetached⟩ := numbered_placeholder i f
    -- the number ends with its digits: neither the cast nor what follows begins with another one
    have hend := hdetached.append (detached_of_begins hb (i + 1))
    rw [htext, List.append_assoc, dollarNumbers_plain hbefore, List.cons_append, dollarNumbers,
      if_pos rfl, List.append_assoc, Decimal.takeWhile_digits i hend, Decimal.valueOf_digits,
      dollarNumbers_plain (plain_digits i), dollarNumbers_plain hafter, ih (i + 1)]
    rfl
  | @page limit offset ps _ ih =>
    have hplain := plain_page limit offset
    rw [render_page, outsideNames_append hplain.noQuote, dollarNumbers_plain hplain, ih i]
    rfl

/-- Every name is a name: the numbering does not depend on what the names of a command are. -/
theorem Command.named_trivially (c : Command) : c.Named fun _ => True := by
  have hcolumn (col : Column) : col.Named fun _ => True := ⟨fun _ _ => trivial, trivial⟩
  have hconditions (cs : List Condition) : ∀ c ∈ cs, c.Named fun _ => True :=
    fun _ _ col _ => hcolumn col
  have hscope (s : Scope) : s.Named fun _ => True := by
    constructor <;> simp
  cases c with
  | select s columns conditions order page =>
    exact ⟨hscope s, fun _ _ => trivial, hconditions conditions, fun o _ => hcolumn o.1⟩
  | count s conditions => exact ⟨trivial, hscope s, hconditions conditions⟩
  | insert table assignments returning => exact ⟨trivial, fun _ _ => trivial, fun _ _ => trivial⟩
  | update table assignments conditions returning =>
    exact ⟨trivial, fun _ _ => trivial, hconditions conditions, fun _ _ => trivial⟩
  | delete table conditions returning =>
    exact ⟨trivial, hconditions conditions, fun _ _ => trivial⟩

theorem Command.numbered (d : Dialect) (c : Command) : Numbered d (c.statement d) := by
  have h := phrase c.named_trivially
  rw [statement_eq]
  cases d with
  | sqlite => exact h.count_marks 1
  | postgresql => exact h.numbers 1

end EntityMapper.Sql
