import EntityMapper.Proofs.Sql.Text
import EntityMapper.Proofs.Text.Quoted

/-!
# Legible pieces

Where words have no quotes and a word or nothing stands behind each name, the text of pieces is read as
these words and names.
-/

namespace EntityMapper.Sql

open Text

variable {ps qs : List Piece}

/-- What is read of the text of words and names. Numbers and parameters are passed over. -/
def items (ps : List Piece) : List Quoted.Item :=
  ps.flatMap fun p =>
    match p with
    | .word w => w.toList.map .outside
    | .name n => [.name n]
    | _ => []

/-- Nothing, or a word that is not empty. -/
def EndsName : List Piece → Prop
  | [] => True
  | .word w :: _ => w ≠ ""
  | _ => False

/-- Words without quotes, and names with a word or nothing behind each. -/
inductive Legible : List Piece → Prop where
  | nil : Legible []
  | word {w : String} {ps : List Piece} (hw : '"' ∉ w.toList) : Legible ps → Legible (.word w :: ps)
  | name {n : String} {ps : List Piece} (h : EndsName ps) : Legible ps → Legible (.name n :: ps)

theorem EndsName.append (hp : EndsName ps) (hq : EndsName qs) : EndsName (ps ++ qs) := by
  cases ps with
  | nil => exact hq
  | cons p ps => cases p <;> exact hp

namespace Legible

theorem name_word {n w : String} (hne : w ≠ "") (h : Legible (.word w :: ps)) :
    Legible (.name n :: .word w :: ps) := .name hne h

theorem append (hp : Legible ps) (hq : Legible qs) (hends : EndsName qs) : Legible (ps ++ qs) := by
  induction hp with
  | nil => exact hq
  | word hw _ ih => exact .word hw ih
  | name h _ ih => exact .name (h.append hends) ih

theorem separated {sep : String} (hsep : '"' ∉ sep.toList) (hne : sep ≠ "")
    {pss : List (List Piece)} (h : ∀ ps ∈ pss, Legible ps) : Legible (Sql.separated sep pss) := by
  induction pss using Sql.separated.induct with
  | case1 => exact .nil
  | case2 ps => exact h ps List.mem_cons_self
  | case3 ps rest hmore ih =>
    rw [Sql.separated.eq_3 _ _ _ hmore]
    have hrest := ih fun qs hq => h qs (List.mem_cons_of_mem _ hq)
    exact (h ps List.mem_cons_self).append (.word hsep hrest) hne

variable {d : Dialect}

theorem head?_render (h : Legible ps) (hends : EndsName ps) (i : Nat) :
    (d.render i ps).toList.head? ≠ some '"' := by
  cases h with
  | nil => simp [Dialect.render]
  | @word w ps hw _ =>
    have hne : w ≠ "" := hends
    obtain ⟨c, cs, hcs⟩ := List.exists_cons_of_ne_nil (mt String.toList_eq_nil_iff.mp hne)
    rw [hcs, List.mem_cons, not_or] at hw
    rw [Dialect.render_word, String.toList_append, hcs]
    exact fun hquote => hw.1 (Option.some.inj hquote).symm
  | name => cases hends

theorem reads (h : Legible ps) (i : Nat) : Quoted.Reads (d.render i ps).toList (items ps) := by
  induction h with
  | nil => exact .nil
  | word hw _ ih =>
    rw [Dialect.render_word, String.toList_append]
    exact ih.append_left hw
  | name hends hps ih =>
    rw [Dialect.render_name, String.toList_append]
    exact ih.quote _ (hps.head?_render hends i)

end Legible

/-! ## The names among them -/

theorem names_items_nil : Quoted.names (items []) = [] := rfl

theorem names_items_word (w : String) (ps : List Piece) :
    Quoted.names (items (.word w :: ps)) = Quoted.names (items ps) := by
  have hword : Quoted.names (w.toList.map .outside) = [] := by
    simp [Quoted.names, Quoted.Item.name?]
  change Quoted.names (w.toList.map .outside ++ items ps) = _
  rw [Quoted.names_append, hword, List.nil_append]

theorem names_items_name (n : String) (ps : List Piece) :
    Quoted.names (items (.name n :: ps)) = n :: Quoted.names (items ps) := rfl

theorem names_items_append (ps qs : List Piece) :
    Quoted.names (items (ps ++ qs)) = Quoted.names (items ps) ++ Quoted.names (items qs) := by
  unfold items
  rw [List.flatMap_append, Quoted.names_append]

theorem names_items_separated (sep : String) (pss : List (List Piece)) :
    Quoted.names (items (separated sep pss)) = pss.flatMap fun ps => Quoted.names (items ps) := by
  induction pss using separated.induct with
  | case1 => rfl
  | case2 ps => simp [separated]
  | case3 ps rest hmore ih =>
    rw [separated.eq_3 _ _ _ hmore, names_items_append, names_items_word, ih, List.flatMap_cons]

end EntityMapper.Sql
