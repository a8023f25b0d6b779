import EntityMapper.Proofs.Sql.Placeholder

/-!
# Symbols of SQL text

SQL text read character by character: words end at blanks and marks, names stand between quotes, and
a placeholder stands for the value of its parameter. What is read from the text of spaced pieces are
the symbols of these pieces, one piece after the other.
-/

namespace EntityMapper.Sql

open Text

/-! ## The reader -/

/-- A word or mark of SQL, a quoted name, or the value of a parameter. -/
inductive Symbol where
  | word (text : String)
  | name (n : String)
  | value (v : Json)

/-- Characters that stand for themselves, wherever they are. -/
def marks : List Char := ['(', ')', ',', '.']

/-- Characters between which words stand. -/
def breaks : List Char := ' ' :: marks

/-- Characters at which a word ends. -/
def stops : List Char := '"' :: '?' :: '$' :: breaks

/-- What is being read, the latest character first. -/
inductive Part where
  | word (read : List Char)
  | mark (c : Char)
  | name (read : List Char)
  /-- After a quote in a name, which another quote would take for a character of the name. -/
  | closed (read : List Char)
  /-- A placeholder without a number, after so many others. -/
  | next (n : Nat)
  | number (read : List Char)

namespace Part

/-- The part with one more character, unless the character begins another part. -/
def continue? : Part → Char → Option Part
  | word read, c => if c ∈ stops then none else some (word (c :: read))
  | name read, c => some (if c = '"' then closed read else name (c :: read))
  | closed read, c => if c = '"' then some (name (c :: read)) else none
  | number read, c => if Decimal.isDigit c then some (number (c :: read)) else none
  | mark _, _ | next _, _ => none

/-- The part that a character begins, after `n` placeholders. -/
def begin (n : Nat) (c : Char) : Part :=
  if c = ' ' then word []
  else if c = '"' then name []
  else if c = '?' then next n
  else if c = '$' then number []
  else if c ∈ marks then mark c
  else word [c]

/-- The symbol of the parameter at a place. -/
def parameter (ps : List Json) (n : Nat) : Symbol :=
  match ps[n]? with
  | some v => .value v
  | none => .word "?"

/-- The symbols of a part that has been read. -/
def symbols (ps : List Json) : Part → List Symbol
  | word read => if read.isEmpty then [] else [.word (String.ofList read.reverse)]
  | mark c => [.word (String.singleton c)]
  | name _ => []
  | closed read => [.name (String.ofList read.reverse)]
  | next n => [parameter ps n]
  | number read => [parameter ps (Decimal.valueOf read.reverse - 1)]

end Part

/-- The symbols of a text, of which a part has been read already, with `n` placeholders in it. -/
def lexFrom (ps : List Json) (n : Nat) (part : Part) : List Char → List Symbol
  | [] => part.symbols ps
  | c :: cs =>
    match part.continue? c with
    | some part => lexFrom ps n part cs
    | none => part.symbols ps ++ lexFrom ps (if c = '?' ∨ c = '$' then n + 1 else n) (.begin n c) cs

/-- The symbols of a text with these parameters. Placeholders without a number stand for those that
come after the first `n`. -/
def lex (ps : List Json) (n : Nat) (cs : List Char) : List Symbol := lexFrom ps n (.word []) cs

/-! ## Parts -/

variable {all : List Json} {n : Nat} {part : Part} {cs rest : List Char}

/-- The part is complete before this text. -/
def Part.Ends (part : Part) (cs : List Char) : Prop := ∀ c ∈ cs.head?, part.continue? c = none

theorem lexFrom_of_ends (h : part.Ends cs) :
    lexFrom all n part cs = part.symbols all ++ lex all n cs := by
  unfold lex
  cases cs with
  | nil => simp [lexFrom, Part.symbols]
  | cons c cs =>
    have hpart : part.continue? c = none := h c rfl
    rw [lexFrom, hpart, lexFrom]
    by_cases hc : c ∈ stops
    · simp [Part.continue?, hc, Part.symbols]
    · have hbegin : Part.begin n c = .word [c] := by
        simp only [stops, breaks, marks, List.mem_cons, List.not_mem_nil, or_false, not_or] at hc
        simp [Part.begin, marks, hc]
      have hplain : ¬(c = '?' ∨ c = '$') := by
        rintro (rfl | rfl) <;> exact hc (by decide)
      simp [Part.continue?, hc, hbegin, hplain]

theorem lexFrom_name (read name rest : List Char) :
    lexFrom all n (.name read) (Quoted.escape name ++ '"' :: rest)
      = lexFrom all n (.closed (name.reverse ++ read)) rest := by
  induction name generalizing read with
  | nil => simp [Quoted.escape, lexFrom, Part.continue?]
  | cons c cs ih =>
    unfold Quoted.escape
    split
    · rename_i hc
      subst hc
      simp [lexFrom, Part.continue?, ih]
    · rename_i hc
      simp [lexFrom, Part.continue?, hc, ih]

/-- A name is read up to a quote that no other follows. -/
theorem lex_quote (name : String) (h : ∀ c ∈ rest.head?, c ≠ '"') :
    lex all n ((Quoted.quote name).toList ++ rest) = .name name :: lex all n rest := by
  have hends : (Part.closed name.toList.reverse).Ends rest := fun c hc => if_neg (h c hc)
  have htext : (Quoted.quote name).toList ++ rest
      = '"' :: (Quoted.escape name.toList ++ '"' :: rest) := by
    simp [Quoted.quote]
  rw [htext]
  change lexFrom all n (.name []) _ = _
  rw [lexFrom_name, List.append_nil, lexFrom_of_ends hends]
  simp [Part.symbols]

theorem lex_next (rest : List Char) :
    lex all n ('?' :: rest) = Part.parameter all n :: lex all (n + 1) rest := by
  change lexFrom all (n + 1) (.next n) rest = _
  exact lexFrom_of_ends fun c hc => rfl

theorem lexFrom_number (read : List Char) {ds : List Char}
    (hds : ∀ c ∈ ds, Decimal.isDigit c = true) (rest : List Char) :
    lexFrom all n (.number read) (ds ++ rest) = lexFrom all n (.number (ds.reverse ++ read)) rest := by
  induction ds generalizing read with
  | nil => rfl
  | cons d ds ih =>
    have hd : Decimal.isDigit d = true := hds d List.mem_cons_self
    rw [List.cons_append, lexFrom, Part.continue?, if_pos hd]
    simp only [ih _ fun c hc => hds c (List.mem_cons_of_mem _ hc), List.reverse_cons,
      List.append_assoc, List.singleton_append]

theorem lex_number (k : Nat) (h : Detached rest) :
    lex all n ('$' :: (Decimal.digits k ++ rest))
      = Part.parameter all (k - 1) :: lex all (n + 1) rest := by
  have hends : (Part.number (Decimal.digits k).reverse).Ends rest := by
    intro c hc
    rw [Part.continue?, if_neg (by simp [h c hc])]
  change lexFrom all (n + 1) (.number []) _ = _
  rw [lexFrom_number _ fun c hc => Decimal.isDigit_of_mem_digits hc, List.append_nil,
    lexFrom_of_ends hends, Part.symbols, List.reverse_reverse, Decimal.valueOf_digits]
  rfl

/-! ## Words -/

/-- The part is a word or a mark. -/
def Part.IsWord : Part → Prop
  | word _ | mark _ => True
  | _ => False

theorem Part.IsWord.of_continue? {c : Char} {more : Part} (h : part.IsWord)
    (hmore : part.continue? c = some more) : ∃ read, more = .word (c :: read) ∧ c ∉ stops := by
  cases part with
  | word read =>
    have hword : (if c ∈ stops then none else some (Part.word (c :: read))) = some more := hmore
    split at hword
    · cases hword
    · rename_i hstop
      cases hword
      exact ⟨read, rfl, hstop⟩
  | mark => cases hmore
  | _ => cases h

/-- The text ends with a blank or a mark, if with anything. -/
def Closes (cs : List Char) : Prop := ∀ c ∈ cs.getLast?, c ∈ breaks

instance (cs : List Char) : Decidable (Closes cs) := Option.decidableForallMem _

/-- No word goes on from one of the texts to the other. -/
def Apart (w rest : List Char) : Prop := Closes w ∨ ∀ c ∈ rest.head?, c ∈ stops

theorem Apart.tail {c : Char} {w : List Char} (h : Apart (c :: w) rest) : Apart w rest := by
  refine h.imp_left fun h => ?_
  cases w with
  | nil => simp [Closes]
  | cons d w => simpa [Closes] using h

theorem mem_stops_of_mem_breaks {c : Char} (h : c ∈ breaks) : c ∈ stops := by simp [stops, h]

theorem Part.isWord_begin {c : Char} (hquote : c ≠ '"') (hnext : c ≠ '?') (hnumber : c ≠ '$') :
    (Part.begin n c).IsWord := by
  unfold Part.begin
  rw [if_neg hquote, if_neg hnext, if_neg hnumber]
  split
  · trivial
  · split <;> trivial

/-- What one character has begun is complete where words are apart. -/
theorem Part.ends_begin {c : Char} (h : Apart [c] rest) (hquote : c ≠ '"') (hnext : c ≠ '?')
    (hnumber : c ≠ '$') : Part.begin n c = .word [] ∨ (Part.begin n c).Ends rest := by
  unfold Part.begin
  rw [if_neg hquote, if_neg hnext, if_neg hnumber]
  split
  · exact .inl rfl
  · rename_i hblank
    refine .inr ?_
    split
    · exact fun d hd => rfl
    · rename_i hmark
      rcases h with h | h
      · exact absurd (h c rfl) (by simp [breaks, hblank, hmark])
      · exact fun d hd => if_pos (h d hd)

theorem lexFrom_word {w : List Char} (hw : Plain w) (hpart : part.IsWord)
    (hend : w = [] → part = .word [] ∨ part.Ends rest) (hapart : Apart w rest) :
    lexFrom all n part (w ++ rest) = lexFrom [] 0 part w ++ lex all n rest := by
  induction w generalizing part with
  | nil =>
    rcases hend rfl with rfl | hend
    · rfl
    · rw [List.nil_append, lexFrom_of_ends hend]
      cases part with
      | word | mark => rfl
      | _ => cases hpart
  | cons c w ih =>
    obtain ⟨hquote, hnext, hnumber⟩ := hw c List.mem_cons_self
    have hw' : Plain w := fun d hd => hw d (List.mem_cons_of_mem _ hd)
    rw [List.cons_append, lexFrom, lexFrom]
    cases hmore : part.continue? c with
    | some more =>
      obtain ⟨read, rfl, hstop⟩ := hpart.of_continue? hmore
      refine ih hw' trivial ?_ hapart.tail
      rintro rfl
      rcases hapart with h | h
      · exact absurd (mem_stops_of_mem_breaks (h c rfl)) hstop
      · exact .inr fun d hd => if_pos (h d hd)
    | none =>
      have hsymbols : part.symbols all = part.symbols [] := by
        cases part with
        | word | mark => rfl
        | _ => cases hpart
      have hplain : ¬(c = '?' ∨ c = '$') := by simp [hnext, hnumber]
      have hrest : lexFrom all n (.begin n c) (w ++ rest)
          = lexFrom [] 0 (.begin 0 c) w ++ lex all n rest := by
        have hzero : Part.begin n c = Part.begin 0 c := by simp [Part.begin, hnext]
        rw [← hzero]
        refine ih hw' (Part.isWord_begin hquote hnext hnumber) ?_ hapart.tail
        rintro rfl
        exact Part.ends_begin hapart hquote hnext hnumber
      simp only [if_neg hplain, hsymbols, hrest, List.append_assoc]

/-- The symbols of a word or several, and then those of what follows. -/
theorem lex_word {w : List Char} (hw : Plain w) (hapart : Apart w rest) :
    lex all n (w ++ rest) = lex [] 0 w ++ lex all n rest :=
  lexFrom_word hw trivial (fun _ => .inl rfl) hapart

/-! ## Pieces -/

def Piece.symbols : Piece → List Symbol
  | .word text => lex [] 0 text.toList
  | .name n => [.name n]
  | .number n => [.word (toString n)]
  | .parameter v _ => [.value v]

def symbols (ps : List Piece) : List Symbol := ps.flatMap Piece.symbols

theorem symbols_append (ps qs : List Piece) : symbols (ps ++ qs) = symbols ps ++ symbols qs :=
  List.flatMap_append

/-- The text begins with a blank or a mark. -/
def Leads (cs : List Char) : Prop := ∃ c ∈ cs.head?, c ∈ breaks

instance (cs : List Char) : Decidable (Leads cs) := Option.decidableExistsMem _

/-- Nothing, or a word that begins with a blank or a mark. -/
def Opens : List Piece → Prop
  | [] => True
  | .word w :: _ => Leads w.toList
  | _ => False

/-- Pieces that stay apart as text, with parameters of fields that have the property `Q`. -/
inductive Spaced (Q : Option Field → Prop) : List Piece → Prop where
  | nil : Spaced Q []
  | word {w : String} {ps : List Piece} (hw : w ∈ keywords ∨ w ∈ constants)
    (h : Closes w.toList ∨ Opens ps) : Spaced Q ps → Spaced Q (.word w :: ps)
  | name {n : String} {ps : List Piece} (h : Opens ps) : Spaced Q ps → Spaced Q (.name n :: ps)
  | parameter {v : Json} {f : Option Field} {ps : List Piece} (hf : Q f) (h : Opens ps) :
    Spaced Q ps → Spaced Q (.parameter v f :: ps)

theorem Opens.append {ps qs : List Piece} (hp : Opens ps) (hq : Opens qs) : Opens (ps ++ qs) := by
  cases ps with
  | nil => exact hq
  | cons p ps => cases p <;> exact hp

namespace Spaced

variable {Q : Option Field → Prop} {ps qs : List Piece} {w : String}

theorem append (hp : Spaced Q ps) (hq : Spaced Q qs) (hopens : Opens qs) : Spaced Q (ps ++ qs) := by
  induction hp with
  | nil => exact hq
  | word hw h _ ih => exact .word hw (h.imp_right fun h => h.append hopens) ih
  | name h _ ih => exact .name (h.append hopens) ih
  | parameter hf h _ ih => exact .parameter hf (h.append hopens) ih

/-- A word that has blanks or marks at both ends may stand between any pieces. -/
theorem append_word (hp : Spaced Q ps) (hw : w ∈ keywords) (hleads : Leads w.toList)
    (hcloses : Closes w.toList) (hq : Spaced Q qs) : Spaced Q (ps ++ .word w :: qs) :=
  hp.append (.word (.inl hw) (.inl hcloses) hq) hleads

theorem separated {sep : String} (hw : sep ∈ keywords) (hleads : Leads sep.toList)
    (hcloses : Closes sep.toList) {pss : List (List Piece)} (h : ∀ ps ∈ pss, Spaced Q ps) :
    Spaced Q (Sql.separated sep pss) := by
  induction pss using Sql.separated.induct with
  | case1 => exact .nil
  | case2 ps => exact h ps List.mem_cons_self
  | case3 ps rest hne ih =>
    rw [Sql.separated.eq_3 _ _ _ hne]
    exact (h ps List.mem_cons_self).append_word hw hleads hcloses
      (ih fun qs hq => h qs (List.mem_cons_of_mem _ hq))

end Spaced

/-- The placeholder of the field has no cast and no decoding around it. -/
def Bare (d : Dialect) (f : Option Field) : Prop :=
  ∀ n, d.placeholder n f = match d with
    | .sqlite => "?"
    | .postgresql => "$" ++ toString n

variable {d : Dialect} {ps : List Piece}

theorem head_of_opens (h : Opens ps) (i : Nat) : ∀ c ∈ (d.render i ps).toList.head?, c ∈ breaks := by
  unfold Opens at h
  split at h
  · intro c hc
    cases hc
  · rename_i w rest
    obtain ⟨c, hc, hbreak⟩ := h
    rw [Dialect.render_word, String.toList_append, List.head?_append, hc, Option.some_or]
    rintro _ ⟨⟩
    exact hbreak
  · cases h

theorem detached_of_opens (h : Opens ps) (i : Nat) : Detached (d.render i ps).toList := by
  have hbreaks : breaks.all (!Decimal.isDigit ·) = true := by decide
  intro c hc
  simpa using List.all_eq_true.mp hbreaks c (head_of_opens h i c hc)

theorem lex_placeholder {f : Option Field} (hf : Bare d f) (h : Detached rest) :
    lex all n ((d.placeholder (n + 1) f).toList ++ rest)
      = Part.parameter all n :: lex all (n + 1) rest := by
  rw [hf (n + 1)]
  cases d with
  | sqlite =>
    have htext : "?".toList = ['?'] := rfl
    rw [htext]
    exact lex_next rest
  | postgresql =>
    have hdigits : (toString (n + 1)).toList = Decimal.digits (n + 1) := Nat.toList_repr
    rw [String.toList_append, hdigits]
    exact lex_number (n + 1) h

/-- The text of spaced pieces has the symbols of the pieces, when their parameters come after the
first `n` of all. -/
theorem lex_render (h : Spaced (Bare d) ps) (hall : all.drop n = parameters ps) :
    lex all n (d.render (n + 1) ps).toList = symbols ps := by
  induction h generalizing n with
  | nil => rfl
  | @word w ps hw hspace _ ih =>
    have hplain : Plain w.toList := hw.elim plain_of_keyword plain_of_constant
    have hapart : Apart w.toList (d.render (n + 1) ps).toList :=
      hspace.imp_right fun h c hc => mem_stops_of_mem_breaks (head_of_opens h _ c hc)
    rw [Dialect.render_word, String.toList_append, lex_word hplain hapart, ih hall]
    rfl
  | @name q ps hopens _ ih =>
    have hquote : ∀ c ∈ (d.render (n + 1) ps).toList.head?, c ≠ '"' := by
      rintro _ hc rfl
      exact absurd (head_of_opens hopens _ _ hc) (by decide)
    rw [Dialect.render_name, String.toList_append, lex_quote q hquote, ih hall]
    rfl
  | @parameter v f ps hf hopens _ ih =>
    have hfirst : all.drop n = v :: parameters ps := hall
    obtain ⟨hlt, hv⟩ := List.getElem?_eq_some_iff.mp (by
      rw [← Nat.add_zero n, ← List.getElem?_drop, hfirst]
      rfl : all[n]? = some v)
    have hrest : all.drop (n + 1) = parameters ps := by
      rw [← List.drop_drop, hfirst]
      rfl
    have hvalue : Part.parameter all n = .value v := by
      simp [Part.parameter, hlt, hv]
    rw [Dialect.render_parameter, String.toList_append, lex_placeholder hf (detached_of_opens hopens _),
      hvalue, ih hrest]
    rfl

end EntityMapper.Sql
