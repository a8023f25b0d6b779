import EntityMapper.Engine.Writing
import EntityMapper.Proofs.Call
import EntityMapper.Proofs.Filter.Validator
import EntityMapper.Proofs.Sql.Condition
import EntityMapper.Proofs.Sql.Text
import Mathlib

/-!
# What writes send

No write changes all rows of a table: an UPDATE and a DELETE always come with a condition. Where the
rows are chosen by a filter, a filter that chooses all of them is refused before anything is sent.
-/

namespace EntityMapper

open Sql

/-- What a caller does to the rows of an entity. -/
inductive Write where
  | insertOne (data : Json)
  | insertMany (rows : List Json)
  | updateOne (id data : Json)
  | deleteOne (id : Json)
  | updateWhere (filter : FilterInput) (data : Json)
  | deleteWhere (filter : FilterInput)

/-- What comes of a write, which is one result or one for each row, and how it leaves the outside. -/
def Write.on (m : Engine) (e : Entity) (x : Exchange) :
    Write → List (Except DataError Written) × Exchange
  | insertOne data => single ((m.insertOne e data).on x)
  | insertMany rows => (m.insertMany e rows).run x
  | updateOne id data => single ((m.updateOne e id data).on x)
  | deleteOne id => single ((m.deleteOne e id).on x)
  | updateWhere filter data => single ((m.updateWhere e filter data).on x)
  | deleteWhere filter => single ((m.deleteWhere e filter).on x)
where
  single (outcome : Except DataError Written × Exchange) := ([outcome.1], outcome.2)

/-! ## Statements with conditions -/

/-- The text is that of a statement that changes rows which are there already. -/
def Statement.ChangesRows (s : Statement) : Prop :=
  "UPDATE ".toList <+: s.sql.toList ∨ "DELETE ".toList <+: s.sql.toList

/-- If it changes rows, it is an UPDATE or a DELETE with at least one condition after WHERE. -/
def Statement.Guarded (d : Dialect) (s : Statement) : Prop :=
  s.ChangesRows → ∃ table c cs returning,
    s = (Command.delete table (c :: cs) returning).statement d
      ∨ ∃ assignments, s = (Command.update table assignments (c :: cs) returning).statement d

variable {d : Dialect} {m : Engine} {e : Entity} {f : Filter} {c : Command} {s : Scope}

theorem Sql.Command.begins {w : String} {ps : List Piece} (h : c.pieces = .word w :: ps)
    (d : Dialect) : w.toList <+: (c.statement d).sql.toList := by
  rw [statement_eq, h, Dialect.statement, Dialect.render_word, String.toList_append]
  exact List.prefix_append _ _

theorem Statement.ChangesRows.word {s : Statement} {w : String} (h : s.ChangesRows)
    (hs : w.toList <+: s.sql.toList) (hw : 7 ≤ w.toList.length) :
    "UPDATE ".toList <+: w.toList ∨ "DELETE ".toList <+: w.toList :=
  h.imp (List.prefix_of_prefix_length_le · hs hw) (List.prefix_of_prefix_length_le · hs hw)

namespace Sql.Command

theorem guarded_select {columns : List String} {conditions : List Condition}
    {order : Option (Column × SortDirection)} {page : Option (Nat × Nat)} :
    ((select s columns conditions order page).statement d).Guarded d := by
  intro h
  have hselect := begins (c := select s columns conditions order page) rfl d
  exact absurd (h.word hselect (by decide)) (by decide)

theorem begins_insert (table : String) (assignments : List Assignment) (returning : List String)
    (d : Dialect) :
    "INSERT INTO ".toList <+: ((insert table assignments returning).statement d).sql.toList := by
  cases assignments <;> exact begins rfl d

theorem guarded_insert {table : String} {assignments : List Assignment} {returning : List String} :
    ((insert table assignments returning).statement d).Guarded d := by
  intro h
  exact absurd (h.word (begins_insert table assignments returning d) (by decide)) (by decide)

theorem conditions_ne_nil {conditions : List Condition} (hf : f ≠ [])
    (hoperators : ∀ entry ∈ f, entry.2 ≠ []) (h : Condition.ofFilter d s f = .ok conditions) :
    conditions ≠ [] := by
  rintro rfl
  have hnil : f.predicates = [] := List.forall₂_nil_right_iff.mp (Condition.ofFilter_predicates h)
  exact Filter.predicates_ne_nil hf hoperators hnil

theorem guarded_deleting (hf : f ≠ []) (hoperators : ∀ entry ∈ f, entry.2 ≠ [])
    (h : deleting d e f = .ok c) : (c.statement d).Guarded d := by
  obtain ⟨conditions, hconditions, h⟩ := Result.of_bind h
  cases h
  obtain ⟨first, rest, rfl⟩ := List.exists_cons_of_ne_nil (conditions_ne_nil hf hoperators hconditions)
  exact fun _ => ⟨_, _, _, _, .inl rfl⟩

/-- A change that gives no field a value only reads the rows. -/
theorem guarded_updating {row : Row} (hf : f ≠ []) (hoperators : ∀ entry ∈ f, entry.2 ≠ [])
    (h : updating d e row f = .ok c) : (c.statement d).Guarded d := by
  unfold updating at h
  obtain ⟨changes, -, h⟩ := Result.of_bind h
  obtain ⟨conditions, hconditions, h⟩ := Result.of_bind h
  obtain ⟨first, rest, rfl⟩ := List.exists_cons_of_ne_nil (conditions_ne_nil hf hoperators hconditions)
  split at h
  · cases h
    exact guarded_select
  · cases h
    exact fun _ => ⟨_, _, _, _, .inr ⟨_, rfl⟩⟩

theorem guarded_inserting {row : Row} (h : inserting d e row = .ok c) : (c.statement d).Guarded d := by
  obtain ⟨assignments, -, h⟩ := Result.of_bind h
  cases h
  exact guarded_insert

end Sql.Command

/-! ## Calls -/

namespace Engine

variable {P : Statement → Prop}

theorem sends_write (h : P (c.statement m.dialect)) : Call.Sends P (m.write e c) :=
  (Call.sends_query h).bind fun _ _ => Call.sends_pure _

theorem sends_single (id : Json) (rows : List Json) : Call.Sends P (m.single e id c rows) := by
  cases rows with
  | nil => exact Call.sends_throw _
  | cons row rows => exact Call.sends_pure _

theorem sends_withKey (row : Row) : Call.Sends P (m.withKey e row) := by
  unfold withKey
  split
  · exact Call.sends_pure _
  · exact (Call.sends_drawKey _).bind fun _ _ => Call.sends_pure _
  · refine (Call.sends_generate _ _ _).bind fun outcome _ => ?_
    cases outcome with
    | generated v => exact Call.sends_pure _
    | failed message => exact Call.sends_throw _

theorem sends_prepareInsert (data : Json) : Call.Sends P (m.prepareInsert e data) :=
  (Call.sends_ofExcept _).bind fun _ _ => (Call.sends_ofExcept _).bind fun _ _ => sends_withKey _

theorem returns_changeFilter {filter : FilterInput} (h : Call.Returns (m.changeFilter e filter) f) :
    f ≠ [] ∧ ∀ entry ∈ f, entry.2 ≠ [] := by
  unfold changeFilter at h
  obtain ⟨converted, hconverted, h⟩ := Call.returns_bind h
  have hoperators := Validator.operators_ne_nil_of_convert (Call.returns_ofExcept hconverted)
  obtain ⟨x, y, h⟩ := h
  cases converted with
  | nil => cases h
  | cons first rest =>
    cases h
    exact ⟨List.cons_ne_nil _ _, hoperators⟩

theorem sends_changeFilter (filter : FilterInput) : Call.Sends P (m.changeFilter e filter) := by
  refine (Call.sends_ofExcept _).bind fun converted _ => ?_
  cases converted with
  | nil => exact Call.sends_throw _
  | cons first rest => exact Call.sends_pure _

theorem byId_operators (id : Json) : byId e id ≠ [] ∧ ∀ entry ∈ byId e id, entry.2 ≠ [] := by
  simp [byId, Filter.put, Dict.insert, Dict.get?]

-- Each call sends the statement of the command it has made and nothing else.
theorem insertOne_sends {data : Json} (h : ∀ row c, Call.Returns (m.prepareInsert e data) row →
    Command.inserting m.dialect e row = .ok c → P (c.statement m.dialect)) :
    Call.Sends P (m.insertOne e data) := by
  refine (sends_prepareInsert data).bind fun row hrow => ?_
  refine (Call.sends_lift _).bind fun c hc => ?_
  exact (sends_write (h row c hrow (Call.returns_lift hc))).bind fun _ _ => Call.sends_pure _

theorem updateOne_sends {id data : Json} (h : ∀ row c, m.prepareChanges e data = .ok row →
    Command.updating m.dialect e row (byId e id) = .ok c → P (c.statement m.dialect)) :
    Call.Sends P (m.updateOne e id data) := by
  refine (Call.sends_ofExcept _).bind fun row hrow => ?_
  refine (Call.sends_lift _).bind fun c hc => ?_
  have hc := h row c (Call.returns_ofExcept hrow) (Call.returns_lift hc)
  exact (sends_write hc).bind fun rows _ => sends_single id rows

theorem deleteOne_sends {id : Json} (h : ∀ c, Command.deleting m.dialect e (byId e id) = .ok c →
    P (c.statement m.dialect)) : Call.Sends P (m.deleteOne e id) := by
  refine (Call.sends_lift _).bind fun c hc => ?_
  exact (sends_write (h c (Call.returns_lift hc))).bind fun rows _ => sends_single id rows

theorem updateWhere_sends {filter : FilterInput} {data : Json}
    (h : ∀ f row c, Call.Returns (m.changeFilter e filter) f → m.prepareChanges e data = .ok row →
      Command.updating m.dialect e row f = .ok c → P (c.statement m.dialect)) :
    Call.Sends P (m.updateWhere e filter data) := by
  refine (sends_changeFilter filter).bind fun f hf => ?_
  refine (Call.sends_ofExcept _).bind fun row hrow => ?_
  refine (Call.sends_lift _).bind fun c hc => ?_
  have hc := h f row c hf (Call.returns_ofExcept hrow) (Call.returns_lift hc)
  exact (sends_write hc).bind fun _ _ => Call.sends_pure _

theorem deleteWhere_sends {filter : FilterInput}
    (h : ∀ f c, Call.Returns (m.changeFilter e filter) f → Command.deleting m.dialect e f = .ok c →
      P (c.statement m.dialect)) : Call.Sends P (m.deleteWhere e filter) := by
  refine (sends_changeFilter filter).bind fun f hf => ?_
  refine (Call.sends_lift _).bind fun c hc => ?_
  exact (sends_write (h f c hf (Call.returns_lift hc))).bind fun _ _ => Call.sends_pure _

theorem sends_insertOne (data : Json) :
    Call.Sends (Statement.Guarded m.dialect) (m.insertOne e data) :=
  insertOne_sends fun _ _ _ hc => Command.guarded_inserting hc

theorem sends_updateOne (id data : Json) :
    Call.Sends (Statement.Guarded m.dialect) (m.updateOne e id data) := by
  obtain ⟨hf, hoperators⟩ := byId_operators (e := e) id
  exact updateOne_sends fun _ _ _ hc => Command.guarded_updating hf hoperators hc

theorem sends_deleteOne (id : Json) :
    Call.Sends (Statement.Guarded m.dialect) (m.deleteOne e id) := by
  obtain ⟨hf, hoperators⟩ := byId_operators (e := e) id
  exact deleteOne_sends fun _ hc => Command.guarded_deleting hf hoperators hc

theorem sends_updateWhere (filter : FilterInput) (data : Json) :
    Call.Sends (Statement.Guarded m.dialect) (m.updateWhere e filter data) := by
  refine updateWhere_sends fun f row c hf _ hc => ?_
  obtain ⟨hne, hoperators⟩ := returns_changeFilter hf
  exact Command.guarded_updating hne hoperators hc

theorem sends_deleteWhere (filter : FilterInput) :
    Call.Sends (Statement.Guarded m.dialect) (m.deleteWhere e filter) := by
  refine deleteWhere_sends fun f c hf hc => ?_
  obtain ⟨hne, hoperators⟩ := returns_changeFilter hf
  exact Command.guarded_deleting hne hoperators hc

theorem insertMany_log (hone : ∀ data, Call.Sends P (m.insertOne e data)) (rows : List Json)
    (x : Exchange) : ∃ sent : List Statement,
      ((m.insertMany e rows).run x).2.log = x.log ++ sent.map .query ∧ ∀ s ∈ sent, P s := by
  -- A row that fails leaves an exchange like one that does not, so the start is left open.
  induction rows generalizing x with
  | nil => exact ⟨[], (List.append_nil _).symm, by simp⟩
  | cons data rest ih =>
    obtain ⟨sent, hsent, hP⟩ := hone data x
    obtain ⟨more, hmore, hmoreP⟩ := ih ((m.insertOne e data).on x).2
    refine ⟨sent ++ more, ?_, ?_⟩
    · have hlog : ((m.insertMany e (data :: rest)).run x).2.log
          = ((m.insertMany e rest).run ((m.insertOne e data).on x).2).2.log := rfl
      rw [hlog, hmore, hsent, List.map_append, List.append_assoc]
    · intro s hs
      rcases List.mem_append.mp hs with hs | hs
      · exact hP s hs
      · exact hmoreP s hs

/-! ## Refused rows -/

variable {data : Json} {violation : Violation}

theorem insertOne_of_unwritable (h : writable e data = .error violation) (x : Exchange) :
    (m.insertOne e data).on x = (.error (.invalid violation), x) := by
  refine Call.on_bind_error ?_
  unfold prepareInsert
  rw [h]
  rfl

theorem prepareChanges_of_unwritable (h : writable e data = .error violation) :
    m.prepareChanges e data = .error violation := by
  unfold prepareChanges
  rw [h]
  rfl

theorem updateOne_of_refused (h : m.prepareChanges e data = .error violation) (id : Json)
    (x : Exchange) : (m.updateOne e id data).on x = (.error (.invalid violation), x) := by
  refine Call.on_bind_error ?_
  rw [h]
  rfl

theorem changeFilter_cases (m : Engine) (e : Entity) (filter : FilterInput) (x : Exchange) :
    (∃ f, (m.changeFilter e filter).on x = (.ok f, x))
      ∨ (m.changeFilter e filter).on x = (.error (.invalid (.unfilteredChange e.name)), x)
      ∨ ∃ fault, m.validator.convert filter = .error fault
        ∧ (m.changeFilter e filter).on x = (.error (.query fault), x) := by
  unfold changeFilter convert
  cases m.validator.convert filter with
  | error fault => exact .inr (.inr ⟨fault, rfl, rfl⟩)
  | ok f =>
    cases f with
    | nil => exact .inr (.inl rfl)
    | cons first rest => exact .inl ⟨first :: rest, rfl⟩

/-- The filter is looked at before the row. -/
theorem updateWhere_of_refused (h : m.prepareChanges e data = .error violation)
    (filter : FilterInput) (x : Exchange) :
    (∃ v, (m.updateWhere e filter data).on x = (.error (.invalid v), x))
      ∨ ∃ fault, m.validator.convert filter = .error fault
        ∧ (m.updateWhere e filter data).on x = (.error (.query fault), x) := by
  obtain ⟨f, hf⟩ | hnone | ⟨fault, hfault, hf⟩ := changeFilter_cases m e filter x
  · refine .inl ⟨violation, (Call.on_bind_ok hf).trans (Call.on_bind_error ?_)⟩
    rw [h]
    rfl
  · exact .inl ⟨_, Call.on_bind_error hnone⟩
  · exact .inr ⟨fault, hfault, Call.on_bind_error hf⟩

/-! ## Main statement -/

/-- Every statement of every write that changes rows comes with a condition; and a filter without
predicates, which has nothing but unset keys, makes a write fail that sends nothing. -/
theorem writes_are_guarded (m : Engine) (e : Entity) :
    (∀ (w : Write) (x : Exchange), ∃ sent : List Statement,
        (w.on m e x).2.log = x.log ++ sent.map .query ∧ ∀ s ∈ sent, s.Guarded m.dialect)
      ∧ ∀ filter : FilterInput,
        (m.validator.convert filter = .ok []
          ↔ ∀ entry ∈ filter, Validator.checkKey entry.1 = .ok () ∧ entry.2 = none)
        ∧ (m.validator.convert filter = .ok [] → ∀ (data : Json) (x : Exchange),
          (Write.updateWhere filter data).on m e x = ([.error (.invalid (.unfilteredChange e.name))], x)
          ∧ (Write.deleteWhere filter).on m e x = ([.error (.invalid (.unfilteredChange e.name))], x)) := by
  refine ⟨fun w x => ?_, fun filter => ⟨Validator.convert_eq_nil_iff, fun h data x => ?_⟩⟩
  · cases w with
    | insertOne data => exact sends_insertOne data x
    | insertMany rows => exact insertMany_log sends_insertOne rows x
    | updateOne id data => exact sends_updateOne id data x
    | deleteOne id => exact sends_deleteOne id x
    | updateWhere filter data => exact sends_updateWhere filter data x
    | deleteWhere filter => exact sends_deleteWhere filter x
  · have hrefused : (m.changeFilter e filter).on x
        = (.error (.invalid (.unfilteredChange e.name)), x) := by
      unfold changeFilter convert
      rw [h, Call.on_bind_ok (Call.on_ofExcept_ok [] x)]
      rfl
    have hupdate : (m.updateWhere e filter data).on x
        = (.error (.invalid (.unfilteredChange e.name)), x) := Call.on_bind_error hrefused
    have hdelete : (m.deleteWhere e filter).on x
        = (.error (.invalid (.unfilteredChange e.name)), x) := Call.on_bind_error hrefused
    exact ⟨congrArg Write.on.single hupdate, congrArg Write.on.single hdelete⟩

/-- Of two deletions the one with an unset key is refused, the other sends its condition. -/
theorem writes_are_guarded_authors :
    let m : Engine := { randomKeys := fun _ => "" }
    let authors : Entity := ⟨"authors", [.primary "id" .integer, .text "name"], {}, rfl⟩
    let deletion : Write := .deleteWhere [("name", some (.str "Ada"))]
    m.validator.convert [("name", none)] = .ok []
      ∧ (Write.deleteWhere [("name", none)]).on m authors {}
        = ([.error (.invalid (.unfilteredChange "authors"))], {})
      ∧ DataError.code (.invalid (.unfilteredChange "authors")) = "validation_error"
      ∧ (deletion.on m authors {}).2.log = [.query ⟨"DELETE FROM \"authors\" WHERE \"name\" = ?"
          ++ " RETURNING \"id\", \"name\"", [.str "Ada"]⟩]
      ∧ ∃ sent : List Statement,
        (deletion.on m authors {}).2.log = [] ++ sent.map .query ∧ ∀ s ∈ sent, s.Guarded m.dialect := by
  intro m authors deletion
  obtain ⟨hguarded, hrefused⟩ := writes_are_guarded m authors
  have hempty : m.validator.convert [("name", none)] = .ok [] := by cbv
  exact ⟨hempty, ((hrefused _).2 hempty .null {}).2, rfl, by cbv, hguarded deletion {}⟩

end Engine
end EntityMapper
