import EntityMapper.Proofs.Sql.Piece
import EntityMapper.Sql.Command

/-!
# Values in the order of the text

A command is put together with a buffer in which its values are bound, and parts of its text are made
before others that stand in front of them. In whatever order the parts are made, values are bound in
the order in which the text has their placeholders: each part, and so the whole statement, is what
its pieces say.
-/

namespace EntityMapper.Sql

open Text.Quoted (quote)

/-! ## Pieces of commands -/

def Column.pieces (c : Column) : List Piece :=
  match c.qualifier with
  | none => [.name c.name]
  | some q => [.name q, .word ".", .name c.name]

def Operand.pieces (o : Operand) : List Piece := [.parameter o.value o.field]

namespace Scope

def joinPieces (s : Scope) (j : Join) : List Piece :=
  [.word " LEFT JOIN ", .name j.entity.name, .word " AS ", .name j.path.name, .word " ON "]
    ++ (Column.mk (some j.path.name) j.path.theirKey).pieces ++ [.word " = "]
    ++ (s.column j.path.ourKey).pieces

def fromPieces (s : Scope) : List Piece :=
  [.name s.entity.name]
    ++ (if s.joins.isEmpty then [] else [.word " AS ", .name mainAlias])
    ++ s.joins.flatMap s.joinPieces

def selectedColumn (s : Scope) (name : String) : List Piece :=
  if s.joins.isEmpty then [.name name]
  else (s.column name).pieces ++ [.word " AS ", .name name]

def joinedColumn (j : Join) (f : Field) : List Piece :=
  (Column.mk (some j.path.name) f.name).pieces
    ++ [.word " AS ", .name (joinedName j.path.name f.name)]

def selectPieces (s : Scope) (columns : List String) : List Piece :=
  separated ", " (columns.map s.selectedColumn
    ++ s.joins.flatMap fun j => j.entity.visibleFields.map (joinedColumn j))

end Scope

namespace Condition

def pieces : Condition → List Piece
  | compare c op o => c.pieces ++ [.word (" " ++ op.symbol ++ " ")] ++ o.pieces
  | differs c o =>
    [.word "("] ++ c.pieces ++ [.word " <> "] ++ o.pieces ++ [.word " OR "] ++ c.pieces
      ++ [.word " IS NULL)"]
  | isNull c negated => c.pieces ++ [.word (if negated then " IS NOT NULL" else " IS NULL")]
  | member c negated os =>
    c.pieces ++ [.word (if negated then " NOT IN (" else " IN (")]
      ++ separated ", " (os.map Operand.pieces) ++ [.word ")"]
  | constant truth => [.word (if truth then "1 = 1" else "1 = 0")]
  | between c low high =>
    c.pieces ++ [.word " BETWEEN "] ++ low.pieces ++ [.word " AND "] ++ high.pieces
  | like c asText pattern =>
    (if asText then [.word "CAST("] ++ c.pieces ++ [.word " AS text)"] else c.pieces)
      ++ [.word " LIKE "] ++ pattern.pieces

def wherePieces : List Condition → List Piece
  | [] => []
  | cs => .word " WHERE " :: separated " AND " (cs.map pieces)

end Condition

namespace Command

def orderPieces : Option (Column × SortDirection) → List Piece
  | none => []
  | some (c, direction) => [.word " ORDER BY "] ++ c.pieces ++ [.word (" " ++ direction.sql)]

def pagePieces : Option (Nat × Nat) → List Piece
  | none => []
  | some (limit, offset) => [.word " LIMIT ", .number limit, .word " OFFSET ", .number offset]

def returningPieces (columns : List String) : List Piece := .word " RETURNING " :: names columns

def assignmentPieces (a : Assignment) : List Piece :=
  [.name a.column, .word " = "] ++ a.operand.pieces

def pieces : Command → List Piece
  | select scope columns conditions order page =>
    [.word "SELECT "] ++ scope.selectPieces columns ++ [.word " FROM "] ++ scope.fromPieces
      ++ Condition.wherePieces conditions ++ orderPieces order ++ pagePieces page
  | count scope conditions =>
    [.word "SELECT COUNT(*) AS ", .name "count", .word " FROM "] ++ scope.fromPieces
      ++ Condition.wherePieces conditions
  | insert table [] returning =>
    [.word "INSERT INTO ", .name table, .word " DEFAULT VALUES"] ++ returningPieces returning
  | insert table assignments returning =>
    [.word "INSERT INTO ", .name table, .word " ("] ++ names (assignments.map (·.column))
      ++ [.word ") VALUES ("] ++ separated ", " (assignments.map (·.operand.pieces))
      ++ [.word ")"] ++ returningPieces returning
  | update table assignments conditions returning =>
    [.word "UPDATE ", .name table, .word " SET "]
      ++ separated ", " (assignments.map assignmentPieces)
      ++ Condition.wherePieces conditions ++ returningPieces returning
  | delete table conditions returning =>
    [.word "DELETE FROM ", .name table] ++ Condition.wherePieces conditions
      ++ returningPieces returning

end Command

/-! ## Text that binds nothing -/

theorem Column.shows (c : Column) : Shows c.pieces c.text := by
  unfold pieces text
  cases c.qualifier with
  | none => simpa using Shows.nil.name c.name
  | some q => simpa [String.append_assoc] using ((Shows.nil.name c.name).word ".").name q

namespace Scope

variable (s : Scope)

theorem shows_join (j : Join) : Shows (s.joinPieces j) (s.joinText j) := by
  have hours := (s.column j.path.ourKey).shows
  have htheirs := (Column.mk (some j.path.name) j.path.theirKey).shows
  have hall := (((((htheirs.append (hours.word " = ")).word " ON ").name j.path.name).word
    " AS ").name j.entity.name).word " LEFT JOIN "
  unfold joinPieces joinText
  simpa [String.append_assoc] using hall

theorem shows_from : Shows s.fromPieces s.fromText := by
  have halias : Shows (if s.joins.isEmpty then [] else [.word " AS ", .name mainAlias])
      (if s.joins.isEmpty then "" else " AS " ++ quote mainAlias) := by
    split
    · exact .nil
    · simpa using (Shows.nil.name mainAlias).word " AS "
  have hjoins := Shows.flatMap fun j (_ : j ∈ s.joins) => s.shows_join j
  simpa [fromPieces, fromText, String.append_assoc] using
    (halias.append hjoins).name s.entity.name

theorem shows_selected (n : String) : Shows (s.selectedColumn n) (s.selectedText n) := by
  unfold selectedColumn selectedText
  split
  · simpa using Shows.nil.name n
  · simpa [String.append_assoc] using (s.column n).shows.append ((Shows.nil.name n).word " AS ")

theorem shows_joined (j : Join) (f : Field) : Shows (joinedColumn j f) (joinedText j f) := by
  have hname := (Shows.nil.name (joinedName j.path.name f.name)).word " AS "
  simpa [joinedColumn, joinedText, String.append_assoc] using
    (Column.mk (some j.path.name) f.name).shows.append hname

theorem shows_select (columns : List String) :
    Shows (s.selectPieces columns) (s.selectText columns) := by
  let items : List (List Piece × String) :=
    columns.map (fun n => (s.selectedColumn n, s.selectedText n))
      ++ s.joins.flatMap fun j => j.entity.visibleFields.map fun f => (joinedColumn j f, joinedText j f)
  have hitems : ∀ item ∈ items, Shows item.1 item.2 := by
    intro item hitem
    rcases List.mem_append.mp hitem with hitem | hitem
    · obtain ⟨n, -, rfl⟩ := List.mem_map.mp hitem
      exact s.shows_selected n
    · obtain ⟨j, -, hitem⟩ := List.mem_flatMap.mp hitem
      obtain ⟨f, -, rfl⟩ := List.mem_map.mp hitem
      exact shows_joined j f
  have hall := Shows.separated ", " hitems
  simpa [items, selectPieces, selectText, List.map_flatMap, Function.comp_def] using hall

end Scope

namespace Command

theorem shows_order (order : Option (Column × SortDirection)) :
    Shows (orderPieces order) (orderText order) := by
  cases order with
  | none => exact .nil
  | some order =>
    have hall := (order.1.shows.append (Shows.nil.word (" " ++ order.2.sql))).word " ORDER BY "
    simpa [orderPieces, orderText, String.append_assoc] using hall

theorem shows_page (page : Option (Nat × Nat)) : Shows (pagePieces page) (pageText page) := by
  cases page with
  | none => exact .nil
  | some page =>
    have hall := (((Shows.nil.number page.2).word " OFFSET ").number page.1).word " LIMIT "
    simpa [pagePieces, pageText, String.append_assoc] using hall

theorem shows_returning (columns : List String) :
    Shows (returningPieces columns) (returningText columns) :=
  (Shows.names columns).word " RETURNING "

end Command

/-! ## Text that binds values -/

namespace Building

variable {α β : Type} {d : Dialect} {b : Building String} {ps front back : List Piece} {s t : String}

theorem on_bind (b : Building α) (f : α → Building β) (bound : List Json) :
    (b >>= f).on bound = (f (b.on bound).1).on (b.on bound).2 := rfl

theorem on_pure (a : α) (bound : List Json) : (pure a : Building α).on bound = (a, bound) := rfl

theorem on_push (value : Json) (bound : List Json) :
    (push value).on bound = (bound.length + 1, bound ++ [value]) :=
  Prod.ext (List.length_append.trans rfl) rfl

/-- Whatever is bound before, the text is that of the pieces, numbered from there on, and the values
of the pieces are put behind. -/
def Writes (d : Dialect) (b : Building String) (ps : List Piece) : Prop :=
  ∀ bound : List Json, b.on bound = (d.render (bound.length + 1) ps, bound ++ parameters ps)

theorem Writes.pure (h : Shows ps s) : Writes d (pure s) ps := fun bound => by
  rw [on_pure, h.render, h.parameters, List.append_nil]

/-- Text that binds nothing may stand on both sides. -/
theorem Writes.between (h : Writes d b ps) (hfront : Shows front s) (hback : Shows back t) :
    Writes d (b >>= fun text => return s ++ text ++ t) (front ++ ps ++ back) := fun bound => by
  rw [on_bind, h bound, on_pure]
  simp [Dialect.render_append, parameters_append, hfront.render, hfront.parameters, hback.render,
    hback.parameters, String.append_assoc]

/-- What is bound first stands first. -/
theorem Writes.then {c : Building String} {qs : List Piece} (hb : Writes d b ps)
    (hc : Writes d c qs) :
    Writes d (b >>= fun text => c >>= fun more => return text ++ more) (ps ++ qs) := fun bound => by
  rw [on_bind, hb bound, on_bind, hc, on_pure]
  simp [Dialect.render_append, parameters_append, Nat.add_right_comm]

/-- The texts of a list, and the values they bind one after the other. -/
theorem on_mapM {f : α → Building String} {pieces : α → List Piece}
    (h : ∀ a, Writes d (f a) (pieces a)) (as : List α) (bound : List Json) :
    Building.on (as.mapM f) bound = (d.renders (bound.length + 1) (as.map pieces),
      bound ++ (as.map pieces).flatMap parameters) := by
  induction as generalizing bound with
  | nil => simp [on_pure, Dialect.renders]
  | cons a as ih =>
    rw [List.mapM_cons, on_bind, h a bound, on_bind, ih, on_pure]
    simp [Dialect.renders, Nat.add_right_comm]

theorem Writes.separated {f : α → Building String} {pieces : α → List Piece}
    (h : ∀ a, Writes d (f a) (pieces a)) (sep : String) (as : List α) :
    Writes d (as.mapM f >>= fun texts => return sep.intercalate texts)
      (separated sep (as.map pieces)) := fun bound => by
  rw [on_bind, on_mapM h, on_pure, Dialect.render_separated, parameters_separated]

end Building

open Building

variable (d : Dialect)

theorem Operand.writes (o : Operand) : Writes d (o.text d) o.pieces := fun bound => by
  unfold text
  rw [on_bind, on_push, on_pure]
  simp [pieces, Dialect.render, Dialect.pieceText, parameters]

namespace Condition

theorem writes (c : Condition) : Writes d (c.text d) c.pieces := by
  cases c with
  | compare c op o =>
    have hfront := c.shows.append (Shows.nil.word (" " ++ op.symbol ++ " "))
    simpa [text, pieces, String.append_assoc] using (o.writes d).between hfront .nil
  | differs c o =>
    have hfront := (c.shows.append (Shows.nil.word " <> ")).word "("
    have hback := (c.shows.append (Shows.nil.word " IS NULL)")).word " OR "
    simpa [text, pieces, String.append_assoc] using (o.writes d).between hfront hback
  | isNull c negated =>
    simpa [text, pieces] using Writes.pure
      (c.shows.append (Shows.nil.word (if negated then " IS NOT NULL" else " IS NULL")))
  | member c negated os =>
    have hfront := c.shows.append (Shows.nil.word (if negated then " NOT IN (" else " IN ("))
    have hos := Writes.separated (Operand.writes d) ", " os
    simpa [text, pieces, String.append_assoc] using hos.between hfront (Shows.nil.word ")")
  | constant truth =>
    simpa [text, pieces] using Writes.pure (Shows.nil.word (if truth then "1 = 1" else "1 = 0"))
  | between c low high =>
    have hlow := (low.writes d).between (c.shows.append (Shows.nil.word " BETWEEN "))
      (Shows.nil.word " AND ")
    simpa [-bind_pure_comp, text, pieces, String.append_assoc] using hlow.then (high.writes d)
  | like c asText pattern =>
    have hcolumn : Shows
        (if asText then [.word "CAST("] ++ c.pieces ++ [.word " AS text)"] else c.pieces)
        (if asText then "CAST(" ++ c.text ++ " AS text)" else c.text) := by
      split
      · simpa [String.append_assoc] using (c.shows.append (Shows.nil.word " AS text)")).word "CAST("
      · exact c.shows
    have hall := (pattern.writes d).between (hcolumn.append (Shows.nil.word " LIKE ")) .nil
    simpa [text, pieces, String.append_assoc] using hall

theorem writes_where (cs : List Condition) : Writes d (whereText d cs) (wherePieces cs) := by
  intro bound
  unfold whereText
  rw [on_bind, on_mapM (writes d), on_pure]
  cases cs with
  | nil => simp [Dialect.renders, wherePieces, Dialect.render, parameters]
  | cons c cs =>
    have hwhere : wherePieces (c :: cs)
        = .word " WHERE " :: separated " AND " ((c :: cs).map pieces) := rfl
    have hparameters := parameters_separated " AND " ((c :: cs).map pieces)
    rw [hwhere, Dialect.render_word, Dialect.render_separated, ← hparameters]
    rfl

end Condition

namespace Command

theorem writes_assignment (a : Assignment) : Writes d (assignmentText d a) (assignmentPieces a) := by
  have hfront := (Shows.nil.word " = ").name a.column
  simpa [assignmentText, assignmentPieces, String.append_assoc] using
    (a.operand.writes d).between hfront .nil

theorem writes (c : Command) : Writes d (c.text d) c.pieces := by
  cases c with
  | select s columns conditions order page =>
    have hfront := ((s.shows_select columns).append (s.shows_from.word " FROM ")).word "SELECT "
    have hback := (shows_order order).append (shows_page page)
    simpa [text, pieces, String.append_assoc] using
      (Condition.writes_where d conditions).between hfront hback
  | count s conditions =>
    have hfront := ((s.shows_from.word " FROM ").name "count").word "SELECT COUNT(*) AS "
    simpa [text, pieces, String.append_assoc] using
      (Condition.writes_where d conditions).between hfront .nil
  | insert table assignments returning =>
    have htable := fun {ps s} (h : Shows ps s) => (h.name table).word "INSERT INTO "
    cases assignments with
    | nil =>
      have hall := htable ((shows_returning returning).word " DEFAULT VALUES")
      simpa [text, pieces, String.append_assoc] using Writes.pure hall
    | cons a rest =>
      have hcolumns := Shows.names ((a :: rest).map (·.column))
      have hvalues := Writes.separated (fun a : Assignment => a.operand.writes d) ", " (a :: rest)
      have hall := hvalues.between (htable ((hcolumns.append (Shows.nil.word ") VALUES (")).word " ("))
        ((shows_returning returning).word ")")
      simpa [text, pieces, Function.comp_def, String.append_assoc] using hall
  | update table assignments conditions returning =>
    have hfront := ((Shows.nil.word " SET ").name table).word "UPDATE "
    have hchanges := Writes.separated (writes_assignment d) ", " assignments
    have hkept := (Condition.writes_where d conditions).between .nil (shows_returning returning)
    simpa [text, pieces, String.append_assoc] using (hchanges.between hfront .nil).then hkept
  | delete table conditions returning =>
    have hfront := (Shows.nil.name table).word "DELETE FROM "
    simpa [text, pieces, String.append_assoc] using
      (Condition.writes_where d conditions).between hfront (shows_returning returning)

/-- A statement is what its pieces say: the values stand in the order of their placeholders. -/
theorem statement_eq (d : Dialect) (c : Command) : c.statement d = d.statement c.pieces := by
  unfold statement Building.statement
  rw [c.writes d []]
  rfl

end Command
end EntityMapper.Sql
