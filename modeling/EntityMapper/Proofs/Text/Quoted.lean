import EntityMapper.Text.Quoted

/-!
# Reading quoted names

A name that was quoted is read back from the front of a text, with what follows it. A text with names
in quotes can be read in one way only.
-/

namespace EntityMapper.Text.Quoted

variable {c : Char} {cs rest n after : List Char}

/-! ## One name -/

theorem readRest_plain (h : c ≠ '"') :
    readRest (c :: cs) = (readRest cs).map fun (name, after) => (c :: name, after) := by
  cases cs <;> simp [readRest, h]

theorem readRest_doubled (cs : List Char) :
    readRest ('"' :: '"' :: cs) = (readRest cs).map fun (name, after) => ('"' :: name, after) := by
  simp [readRest]

/-- A quote that no other follows closes the name. -/
theorem readRest_closing (h : rest.head? ≠ some '"') : readRest ('"' :: rest) = some ([], rest) := by
  cases rest with
  | nil => simp [readRest]
  | cons c cs =>
    have hc : c ≠ '"' := fun hc => h (congrArg some hc)
    simp [readRest, hc]

theorem readRest_escape (h : rest.head? ≠ some '"') :
    readRest (escape n ++ '"' :: rest) = some (n, rest) := by
  induction n with
  | nil => exact readRest_closing h
  | cons c n ih =>
    unfold escape
    split
    · rename_i hc
      rw [List.cons_append, List.cons_append, readRest_doubled, ih, hc]
      rfl
    · rename_i hc
      rw [List.cons_append, readRest_plain hc, ih]
      rfl

theorem toList_quote (name : String) (rest : List Char) :
    (quote name).toList ++ rest = '"' :: (escape name.toList ++ '"' :: rest) := by
  simp [quote]

theorem read_quote (name : String) (h : rest.head? ≠ some '"') :
    read ((quote name).toList ++ rest) = some (name.toList, rest) := by
  rw [toList_quote]
  exact readRest_escape h

theorem quote_injective {name name' : String} (h : quote name = quote name') : name = name' := by
  have hend : ([] : List Char).head? ≠ some '"' := by simp
  have hread := read_quote name hend
  rw [h, read_quote name' hend] at hread
  exact (String.toList_injective (Prod.mk.inj (Option.some.inj hread)).1).symm

/-! ## A whole text -/

/-- A character that stands outside of quotes, or a name in them. -/
inductive Item where
  | outside (c : Char)
  | name (n : String)
deriving DecidableEq, Repr

def Item.name? : Item → Option String
  | .name n => some n
  | .outside _ => none

/-- The names among the items. -/
def names (items : List Item) : List String := items.filterMap Item.name?

theorem names_append (items items' : List Item) : names (items ++ items') = names items ++ names items' :=
  List.filterMap_append

/-- Reading the text from left to right gives these items. -/
inductive Reads : List Char → List Item → Prop where
  | nil : Reads [] []
  | outside {c : Char} {cs : List Char} {items : List Item} :
    c ≠ '"' → Reads cs items → Reads (c :: cs) (.outside c :: items)
  | name {n : String} {cs rest : List Char} {items : List Item} :
    read cs = some (n.toList, rest) → Reads rest items → Reads cs (.name n :: items)

variable {items items' : List Item}

theorem read_plain (h : c ≠ '"') : read (c :: cs) = none := by
  simp [read, h]

/-- A text can be read in one way only. -/
theorem Reads.unique (h : Reads cs items) (h' : Reads cs items') : items = items' := by
  induction h generalizing items' with
  | nil =>
    cases h' with
    | nil => rfl
    | name hread _ => cases hread
  | outside hc _ ih =>
    cases h' with
    | outside _ hrest => rw [ih hrest]
    | name hread _ =>
      rw [read_plain hc] at hread
      cases hread
  | name hread _ ih =>
    cases h' with
    | nil => cases hread
    | outside hc _ =>
      rw [read_plain hc] at hread
      cases hread
    | name hread' hrest =>
      have hsame := Prod.mk.inj (Option.some.inj (hread.symm.trans hread'))
      obtain ⟨hname, rfl⟩ := hsame
      rw [String.toList_injective hname, ih hrest]

theorem Reads.append_left (hcs : '"' ∉ cs) (h : Reads rest items) :
    Reads (cs ++ rest) (cs.map .outside ++ items) := by
  induction cs with
  | nil => exact h
  | cons c cs ih =>
    rw [List.mem_cons, not_or] at hcs
    exact .outside (Ne.symm hcs.1) (ih hcs.2)

theorem Reads.quote (name : String) (hrest : rest.head? ≠ some '"') (h : Reads rest items) :
    Reads ((quote name).toList ++ rest) (.name name :: items) :=
  .name (read_quote name hrest) h

end EntityMapper.Text.Quoted
