import EntityMapper.Dialect

/-!
# Pieces of statements

The text of a statement as a list of fixed words, quoted names, plain numbers and parameters. Each
parameter is given with the value that is bound to it, so pieces say what a statement is without the
buffer in which its values are bound.
-/

namespace EntityMapper

open Text.Quoted (quote)

namespace Sql

inductive Piece where
  /-- Text of the statement's own. -/
  | word (text : String)
  /-- A name, to be quoted. -/
  | name (n : String)
  | number (n : Nat)
  /-- A value, with the field it is typed for. -/
  | parameter (value : Json) (field : Option Field)

/-- Lists of pieces with a separator between each two. -/
def separated (separator : String) : List (List Piece) → List Piece
  | [] => []
  | [ps] => ps
  | ps :: rest => ps ++ .word separator :: separated separator rest

/-- Names with commas between them. -/
def names (ns : List String) : List Piece := separated ", " (ns.map fun n => [.name n])

/-- The values of the parameters in order. -/
def parameters (ps : List Piece) : List Json :=
  ps.filterMap fun p =>
    match p with
    | .parameter value _ => some value
    | _ => none

end Sql

namespace Dialect

/-- A piece as text; `index` is the number of the next parameter. -/
def pieceText (d : Dialect) (index : Nat) : Sql.Piece → String
  | .word text => text
  | .name n => quote n
  | .number n => String.ofList (Text.Decimal.digits n)
  | .parameter _ field => d.placeholder index field

/-- Pieces as text, the parameters numbered in order. -/
def render (d : Dialect) : Nat → List Sql.Piece → String
  | _, [] => ""
  | index, .parameter value field :: rest =>
    d.pieceText index (.parameter value field) ++ d.render (index + 1) rest
  | index, p :: rest => d.pieceText index p ++ d.render index rest

def statement (d : Dialect) (ps : List Sql.Piece) : Statement :=
  { sql := d.render 1 ps, parameters := Sql.parameters ps }

end Dialect

/-! ## Lists of pieces -/

namespace Sql

theorem parameters_append (ps qs : List Piece) :
    parameters (ps ++ qs) = parameters ps ++ parameters qs := List.filterMap_append

theorem parameters_separated (sep : String) (pss : List (List Piece)) :
    parameters (separated sep pss) = pss.flatMap parameters := by
  induction pss using separated.induct with
  | case1 => rfl
  | case2 ps => simp [separated]
  | case3 ps rest hne ih =>
    rw [separated.eq_3 _ _ _ hne, parameters_append, List.flatMap_cons, ← ih]
    rfl

end Sql

namespace Dialect

open Sql

variable (d : Dialect) (i : Nat) (ps : List Piece)

theorem render_word (w : String) : d.render i (.word w :: ps) = w ++ d.render i ps := rfl

theorem render_name (n : String) : d.render i (.name n :: ps) = quote n ++ d.render i ps := rfl

theorem render_number (n : Nat) :
    d.render i (.number n :: ps) = String.ofList (Text.Decimal.digits n) ++ d.render i ps := rfl

theorem render_parameter (v : Json) (f : Option Field) :
    d.render i (.parameter v f :: ps) = d.placeholder i f ++ d.render (i + 1) ps := rfl

theorem render_append (qs : List Piece) :
    d.render i (ps ++ qs) = d.render i ps ++ d.render (i + (parameters ps).length) qs := by
  induction ps generalizing i with
  | nil => simp [render, parameters]
  | cons p ps ih =>
    cases p with
    | parameter v f =>
      rw [List.cons_append, render_parameter, render_parameter, ih, String.append_assoc]
      congr 3
      simp only [parameters, List.filterMap_cons, List.length_cons]
      omega
    | word w => rw [List.cons_append, render_word, render_word, ih, String.append_assoc]; rfl
    | name n => rw [List.cons_append, render_name, render_name, ih, String.append_assoc]; rfl
    | number n => rw [List.cons_append, render_number, render_number, ih, String.append_assoc]; rfl

/-- The texts of lists of pieces, the numbers of their parameters going on from one to the next. -/
def renders : Nat → List (List Piece) → List String
  | _, [] => []
  | i, ps :: rest => d.render i ps :: renders (i + (parameters ps).length) rest

theorem render_separated (sep : String) (pss : List (List Piece)) :
    d.render i (separated sep pss) = sep.intercalate (d.renders i pss) := by
  induction pss using separated.induct generalizing i with
  | case1 => simp [separated, renders, render]
  | case2 ps => simp [separated, renders]
  | case3 ps rest hne ih =>
    have hrest : d.renders (i + (parameters ps).length) rest ≠ [] := by
      cases rest with
      | nil => exact absurd rfl hne
      | cons qs more => simp [renders]
    rw [separated.eq_3 _ _ _ hne, render_append, render_word, ih, renders,
      String.intercalate_cons_of_ne_nil hrest, String.append_assoc]

end Dialect

/-! ## Text without parameters -/

namespace Sql

/-- The pieces are this text for every dialect, and bind nothing. -/
structure Shows (ps : List Piece) (text : String) : Prop where
  render : ∀ (d : Dialect) (i : Nat), d.render i ps = text
  parameters : parameters ps = []

namespace Shows

variable {ps qs : List Piece} {s t : String}

theorem nil : Shows [] "" := ⟨fun _ _ => rfl, rfl⟩

theorem word (w : String) (h : Shows ps s) : Shows (.word w :: ps) (w ++ s) :=
  ⟨fun d i => congrArg (w ++ ·) (h.render d i), h.parameters⟩

theorem name (n : String) (h : Shows ps s) : Shows (.name n :: ps) (quote n ++ s) :=
  ⟨fun d i => congrArg (quote n ++ ·) (h.render d i), h.parameters⟩

theorem number (n : Nat) (h : Shows ps s) : Shows (.number n :: ps) (toString n ++ s) :=
  ⟨fun d i => congrArg (toString n ++ ·) (h.render d i), h.parameters⟩

theorem append (hp : Shows ps s) (hq : Shows qs t) : Shows (ps ++ qs) (s ++ t) :=
  ⟨fun d i => by rw [Dialect.render_append, hp.render, hq.render],
    by rw [parameters_append, hp.parameters, hq.parameters, List.nil_append]⟩

variable {α : Type} {pieces : α → List Piece} {text : α → String} {as : List α}

theorem separated (sep : String) (h : ∀ a ∈ as, Shows (pieces a) (text a)) :
    Shows (separated sep (as.map pieces)) (sep.intercalate (as.map text)) := by
  constructor
  · intro d i
    rw [Dialect.render_separated]
    congr 1
    induction as with
    | nil => rfl
    | cons a as ih =>
      obtain ⟨ha, has⟩ := List.forall_mem_cons.mp h
      rw [List.map_cons, Dialect.renders, ha.render, ha.parameters, List.map_cons]
      exact congrArg _ (ih has)
  · rw [parameters_separated, List.flatMap_map]
    exact List.flatMap_eq_nil_iff.mpr fun a ha => (h a ha).parameters

theorem flatMap (h : ∀ a ∈ as, Shows (pieces a) (text a)) :
    Shows (as.flatMap pieces) (String.join (as.map text)) := by
  induction as with
  | nil => exact nil
  | cons a as ih =>
    obtain ⟨ha, has⟩ := List.forall_mem_cons.mp h
    rw [List.flatMap_cons, List.map_cons, String.join_cons]
    exact ha.append (ih has)

theorem names (ns : List String) : Shows (names ns) (", ".intercalate (ns.map quote)) :=
  separated ", " fun n _ => by simpa using nil.name n

end Shows
end Sql

end EntityMapper
