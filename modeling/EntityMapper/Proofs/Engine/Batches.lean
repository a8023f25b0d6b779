import EntityMapper.Engine.Document
import EntityMapper.Proofs.Call.Alike
import EntityMapper.Proofs.Document
import EntityMapper.Proofs.Engine.GeneratedKeys

/-!
# Rows that are inserted together

Rows are inserted one after the other, each as it would be alone. What becomes of a row depends on the
row, on the handlers and on its reply; keys that are drawn at random are all that tells its statement
from the one for the same row elsewhere. A row for which no statement can be made takes no reply, so
that the rows after it do not notice it.
-/

namespace EntityMapper

open Sql Sql.Command Text

variable {d : Dialect} {m : Engine} {e : Entity} {f : Field} {row row' : Row} {v w : Json}
  {handlers : Dict Handler}

/-! ## Values -/

/-- A key that was drawn at random for a row. -/
def DrawnKey (e : Entity) (f : Field) (v : Json) : Prop :=
  f = e.primary ∧ e.primaryFormat.1 = .uuid ∧ ∃ key, key ≠ "" ∧ v = .str key

/-- The field is given one value twice, or keys that were drawn. -/
def SameValue (e : Entity) (f : Field) (v w : Json) : Prop :=
  v = w ∨ DrawnKey e f v ∧ DrawnKey e f w

/-- The rows give each stored field the same, but for keys that were drawn. -/
def SameRow (e : Entity) (row row' : Row) : Prop :=
  ∀ f ∈ e.storedFields, Option.Rel (SameValue e f) (row.get? f.name) (row'.get? f.name)

def SameGiven (e : Entity) (g g' : Field × Json) : Prop := g.1 = g'.1 ∧ SameValue e g.1 g.2 g'.2

/-- The statements insert the same, but for keys that were drawn: they have one text, and each field
that they give a value to is given the same. -/
structure SameInsert (d : Dialect) (e : Entity) (s t : Statement) : Prop where
  sql : s.sql = t.sql
  parameters : ∃ given given', s.sql = insertText d e given ∧ s.parameters = given.map Prod.snd
    ∧ t.parameters = given'.map Prod.snd ∧ List.Forall₂ (SameGiven e) given given'

/-- The writes answer the same with the same statement, but for keys that were drawn. -/
structure SameWritten (d : Dialect) (e : Entity) (a b : Written) : Prop where
  data : a.data = b.data
  entity : a.entity = b.entity
  statement : SameInsert d e a.statement b.statement

theorem rel_sameValue_refl (v : Option Json) : Option.Rel (SameValue e f) v v := by
  cases v with
  | none => exact .none
  | some v => exact .some (.inl rfl)

theorem SameRow.refl (row : Row) : SameRow e row row := fun _ _ => rel_sameValue_refl _

theorem SameRow.drawn (hnamed : Entity.NamedFields e.fields) {handler : Option String}
    (hformat : e.primaryFormat = (.uuid, handler)) {key key' : String} (hkey : key ≠ "")
    (hkey' : key' ≠ "") :
    SameRow e (row.insert e.primary.name (.str key)) (row.insert e.primary.name (.str key')) := by
  intro f hf
  have hdrawn {key : String} (h : key ≠ "") : DrawnKey e e.primary (.str key) :=
    ⟨rfl, congrArg Prod.fst hformat, key, h, rfl⟩
  by_cases hname : f.name = e.primary.name
  · obtain rfl : f = e.primary :=
      Keyed.eq_of_key_eq hnamed.distinct (List.mem_filter.mp hf).1 e.primary_mem.1 hname
    rw [Dict.get?_insert_self, Dict.get?_insert_self]
    exact .some (.inr ⟨hdrawn hkey, hdrawn hkey'⟩)
  · rw [Dict.get?_insert_of_ne _ _ hname, Dict.get?_insert_of_ne _ _ hname]
    exact rel_sameValue_refl _

/-! ## Statements -/

theorem DrawnKey.encode (h : DrawnKey e f v) : d.encode f v = .ok v := by
  obtain ⟨rfl, hformat, key, hkey, rfl⟩ := h
  have hinteger : e.primaryFormat.1 ≠ .integer := by simp [hformat]
  exact (encode_primary_iff hinteger rfl).mpr ⟨key, rfl, hkey, rfl⟩

/-- The operand of a value of the field. -/
abbrev operandOf (f : Field) (v : Json) : Operand := ⟨v, some f⟩

theorem operand_alike (h : SameValue e f v w) :
    Alike (fun o o' => ∃ u u', o = operandOf f u ∧ o' = operandOf f u' ∧ SameValue e f u u')
      (Condition.operand d f v) (Condition.operand d f w) := by
  unfold Condition.operand
  rcases h with rfl | ⟨hv, hw⟩
  · cases d.encode f v with
    | error violation => exact .error _
    | ok u => exact .ok ⟨u, u, rfl, rfl, .inl rfl⟩
  · rw [hv.encode, hw.encode]
    exact .ok ⟨v, w, rfl, rfl, .inr ⟨hv, hw⟩⟩

theorem assignments_alike {fields : List Field} (h : ∀ f ∈ fields,
      Option.Rel (SameValue e f) (row.get? f.name) (row'.get? f.name)) :
    Alike (fun as as' => ∃ given given', as = given.map assignment ∧ as' = given'.map assignment
        ∧ List.Forall₂ (SameGiven e) given given')
      (assignments d row fields) (assignments d row' fields) := by
  induction fields with
  | nil => exact .ok ⟨[], [], rfl, rfl, .nil⟩
  | cons f fs ih =>
    obtain ⟨hfirst, hrest⟩ := List.forall_mem_cons.mp h
    unfold assignments
    cases hv : row.get? f.name <;> cases hw : row'.get? f.name <;> rw [hv, hw] at hfirst <;>
      cases hfirst
    · exact ih hrest
    · rename_i hsame
      refine (operand_alike hsame).bind ?_
      rintro _ _ ⟨u, u', rfl, rfl, huu⟩
      refine (ih hrest).bind ?_
      rintro _ _ ⟨given, given', rfl, rfl, hgiven⟩
      exact .ok ⟨(f, u) :: given, (f, u') :: given', rfl, rfl, .cons ⟨rfl, huu⟩ hgiven⟩

theorem insertText_eq {given given' : List (Field × Json)}
    (h : List.Forall₂ (SameGiven e) given given') : insertText d e given = insertText d e given' := by
  have hfields : given.map Prod.fst = given'.map Prod.fst := by
    induction h with
    | nil => rfl
    | cons hfirst _ ih => rw [List.map_cons, List.map_cons, hfirst.1, ih]
  have hempty : given.isEmpty = given'.isEmpty := by cases h <;> rfl
  have hnames (l : List (Field × Json)) : l.map (fun g => Quoted.quote g.1.name)
      = (l.map Prod.fst).map fun f => Quoted.quote f.name := by simp
  have hvalues (l : List (Field × Json)) : l.mapIdx (fun k g => d.placeholder (k + 1) (some g.1))
      = (l.map Prod.fst).mapIdx fun k f => d.placeholder (k + 1) (some f) := by
    refine List.ext_getElem? fun k => ?_
    rw [List.getElem?_mapIdx, List.getElem?_mapIdx, List.getElem?_map, Option.map_map]
    rfl
  unfold insertText
  rw [hempty, hnames, hnames, hvalues, hvalues, hfields]

theorem inserting_alike (h : SameRow e row row') :
    Alike (fun c c' => SameInsert d e (c.statement d) (c'.statement d))
      (inserting d e row) (inserting d e row') := by
  refine (assignments_alike h).bind ?_
  rintro _ _ ⟨given, given', rfl, rfl, hgiven⟩
  obtain ⟨hsql, hparameters⟩ := insert_statement d e given
  obtain ⟨hsql', hparameters'⟩ := insert_statement d e given'
  refine .ok ⟨?_, given, given', hsql, hparameters, hparameters', hgiven⟩
  rw [hsql, hsql', insertText_eq hgiven]

namespace Engine

/-! ## One row -/

/-- The command that inserts a row. Nothing is asked of the database to make it. -/
def insertCommand (m : Engine) (e : Entity) (data : Json) : Call Command := do
  Command.inserting m.dialect e (← m.prepareInsert e data)

/-- What comes of inserting a row when this is the reply. -/
def inserted (m : Engine) (e : Entity) (c : Command) (reply : Option Reply) :
    Except DataError Written :=
  (Call.received reply).map fun rows =>
    m.written e c ((rows.map (shown m.dialect e)).headD .null)

theorem write_on (c : Command) (x : Exchange) :
    (m.write e c).on x = ((Call.received x.replies.head?).map (·.map (shown m.dialect e)),
      x.asked (c.statement m.dialect)) := by
  have hquery : (m.run c).on x = _ := Call.query_on (c.statement m.dialect) x
  unfold write
  cases hreceived : Call.received x.replies.head? with
  | error error => rw [hreceived] at hquery; exact Call.on_bind_error hquery
  | ok rows => rw [hreceived] at hquery; exact Call.on_bind_ok hquery

/-- The statement that is sent, when it can be made. -/
def sentFor (d : Dialect) : Except DataError Command → List Statement
  | .error _ => []
  | .ok c => [c.statement d]

theorem insertOne_eq (m : Engine) (e : Entity) (data : Json) :
    m.insertOne e data = m.insertCommand e data >>= fun c => do
      let rows ← m.write e c
      return m.written e c (rows.headD .null) := by
  unfold insertOne insertCommand
  rw [bind_assoc]

theorem insertOne_of_command {data : Json} {x y : Exchange} {c : Command}
    (h : (m.insertCommand e data).on x = (.ok c, y)) :
    (m.insertOne e data).on x
      = (m.inserted e c y.replies.head?, y.asked (c.statement m.dialect)) := by
  have hwrite := write_on (m := m) (e := e) c y
  rw [insertOne_eq, Call.on_bind_ok h]
  unfold inserted
  cases hreceived : Call.received y.replies.head? with
  | error error =>
    rw [hreceived] at hwrite
    exact Call.on_bind_error hwrite
  | ok rows =>
    rw [hreceived] at hwrite
    exact Call.on_bind_ok hwrite

/-! ## One row, twice -/

/-- Random keys are never empty, and a handler that makes keys repeats itself. -/
structure Repeats (m : Engine) (e : Entity) (handlers : Dict Handler) : Prop where
  keys : ∀ n, m.randomKeys n ≠ ""
  handler : ∀ h ∈ handlers.get? (e.primaryFormat.2.getD ""), Call.Repeats h

theorem withKey_agree (hnamed : Entity.NamedFields e.fields) (hrepeats : m.Repeats e handlers)
    (row : Row) : Call.Agree handlers (SameRow e) (m.withKey e row) (m.withKey e row) := by
  have hhandler := hrepeats.handler
  unfold withKey
  split
  · exact Call.agree_pure (.refl row)
  · rename_i huuid
    exact (Call.agree_drawKey hrepeats.keys).bind fun key key' ⟨hkey, hkey'⟩ =>
      Call.agree_pure (.drawn hnamed huuid hkey hkey')
  · rename_i handler hcustom
    rw [hcustom] at hhandler
    refine (Call.agree_generate hhandler e.name _).bind ?_
    rintro outcome _ rfl
    cases outcome with
    | generated v => exact Call.agree_pure (.refl _)
    | failed message => exact Call.agree_throw _

/-- Wherever a row is inserted, the statement for it is the same but for keys that are drawn, or it
can not be made for the same reason. -/
theorem insertCommand_agree (hnamed : Entity.NamedFields e.fields)
    (hrepeats : m.Repeats e handlers) (data : Json) :
    Call.Agree handlers
      (fun c c' => SameInsert m.dialect e (c.statement m.dialect) (c'.statement m.dialect))
      (m.insertCommand e data) (m.insertCommand e data) := by
  have hprepared :
      Call.Agree handlers (SameRow e) (m.prepareInsert e data) (m.prepareInsert e data) := by
    unfold prepareInsert
    refine (Call.agree_ofExcept _).bind ?_
    rintro row _ rfl
    refine (Call.agree_ofExcept _).bind ?_
    rintro u _ rfl
    exact withKey_agree hnamed hrepeats _
  exact hprepared.bind fun row row' hrow => Call.agree_lift (inserting_alike hrow)

/-- To insert a row, its command is made, sent when there is one, and answered by a reply. -/
theorem insertOne_on (hnamed : Entity.NamedFields e.fields) (hrepeats : m.Repeats e handlers)
    (data : Json) {x : Exchange} (hx : x.registry.handlers = handlers) :
    let command := ((m.insertCommand e data).on x).1
    let one := (m.insertOne e data).on x
    one.1 = (command >>= fun c => m.inserted e c x.replies.head?)
      ∧ one.2.log = x.log ++ (sentFor m.dialect command).map .query
      ∧ one.2.replies = x.replies.drop (sentFor m.dialect command).length
      ∧ one.2.registry.handlers = handlers := by
  obtain ⟨-, hkept, -⟩ := insertCommand_agree hnamed hrepeats data x x hx hx
  rcases hcommand : (m.insertCommand e data).on x with ⟨error | c, y⟩ <;> rw [hcommand] at hkept
  · have hone : (m.insertOne e data).on x = (.error error, y) := by
      rw [insertOne_eq, Call.on_bind_error hcommand]
    rw [hone]
    exact ⟨rfl, hkept.log.trans (List.append_nil _).symm, hkept.replies, hkept.handlers.trans hx⟩
  · rw [insertOne_of_command hcommand, hkept.replies, Exchange.asked, hkept.log, hkept.replies]
    exact ⟨rfl, rfl, rfl, hkept.handlers.trans hx⟩

theorem inserted_alike {c c' : Command} (h : SameInsert m.dialect e (c.statement m.dialect)
      (c'.statement m.dialect)) (reply : Option Reply) :
    Alike (SameWritten m.dialect e) (m.inserted e c reply) (m.inserted e c' reply) := by
  unfold inserted
  refine (alike_refl (S := Eq) (fun _ => rfl) (Call.received reply)).map ?_
  rintro rows _ rfl
  exact ⟨rfl, rfl, h⟩

/-- Where the same replies are to come, the same becomes of the row. -/
theorem insertOne_alike (hnamed : Entity.NamedFields e.fields) (hrepeats : m.Repeats e handlers)
    (data : Json) {x y : Exchange} (hx : x.registry.handlers = handlers)
    (hy : y.registry.handlers = handlers) (hreplies : x.replies = y.replies) :
    let one := (m.insertOne e data).on x
    let two := (m.insertOne e data).on y
    Alike (SameWritten m.dialect e) one.1 two.1 ∧ one.2.replies = two.2.replies := by
  obtain ⟨halike, -, -⟩ := insertCommand_agree hnamed hrepeats data x y hx hy
  obtain ⟨hone, -, hone', -⟩ := insertOne_on hnamed hrepeats data hx
  obtain ⟨htwo, -, htwo', -⟩ := insertOne_on hnamed hrepeats data hy
  dsimp only
  rw [hone, htwo, hone', htwo', hreplies]
  refine ⟨halike.bind fun c c' hsame => inserted_alike hsame _, ?_⟩
  generalize ((m.insertCommand e data).on x).1 = r at halike
  generalize ((m.insertCommand e data).on y).1 = r' at halike
  cases halike <;> rfl

/-- Inserted alone, the row sends these statements but for keys that are drawn, whatever the replies
to come are. -/
def SendsAlone (m : Engine) (e : Entity) (handlers : Dict Handler) (data : Json)
    (sent : List Statement) : Prop :=
  ∀ y : Exchange, y.registry.handlers = handlers → ∃ alone : List Statement,
    ((m.insertOne e data).on y).2.log = y.log ++ alone.map .query
      ∧ List.Forall₂ (SameInsert m.dialect e) sent alone

theorem insertOne_sendsAlone (hnamed : Entity.NamedFields e.fields)
    (hrepeats : m.Repeats e handlers) (data : Json) {x : Exchange}
    (hx : x.registry.handlers = handlers) : ∃ sent : List Statement,
      ((m.insertOne e data).on x).2.log = x.log ++ sent.map .query
        ∧ m.SendsAlone e handlers data sent := by
  obtain ⟨-, hlog, -⟩ := insertOne_on hnamed hrepeats data hx
  refine ⟨_, hlog, fun y hy => ?_⟩
  obtain ⟨halike, -, -⟩ := insertCommand_agree hnamed hrepeats data x y hx hy
  obtain ⟨-, hlog', -⟩ := insertOne_on hnamed hrepeats data hy
  refine ⟨_, hlog', ?_⟩
  generalize ((m.insertCommand e data).on x).1 = r at halike
  generalize ((m.insertCommand e data).on y).1 = r' at halike
  cases halike with
  | error error => exact .nil
  | ok hsame => exact .cons hsame .nil

/-! ## Many rows -/

theorem insertMany_length (rows : List Json) (x : Exchange) :
    ((m.insertMany e rows).run x).1.length = rows.length := by
  induction rows generalizing x with
  | nil => rfl
  | cons data rest ih =>
    rw [insertMany_cons, List.length_cons, List.length_cons, ih]

/-- What comes of a row of several is what comes of it when it is inserted after those before it. -/
theorem insertMany_getElem? {rows : List Json} {i : Nat} {data : Json} (h : rows[i]? = some data)
    (x : Exchange) :
    ((m.insertMany e rows).run x).1[i]?
      = some ((m.insertOne e data).on ((m.insertMany e (rows.take i)).run x).2).1 := by
  obtain ⟨hi, rfl⟩ := List.getElem?_eq_some_iff.mp h
  have hparts : rows = rows.take i ++ rows[i] :: rows.drop (i + 1) := by
    rw [List.getElem_cons_drop, List.take_append_drop]
  have hlength := insertMany_length (m := m) (e := e) (rows.take i) x
  rw [List.length_take, Nat.min_eq_left (Nat.le_of_lt hi)] at hlength
  conv_lhs => rw [hparts, insertMany_append, insertMany_cons]
  rw [List.getElem?_append_right (Nat.le_of_eq hlength), hlength, Nat.sub_self]
  rfl

/-- Where the same replies are to come, the same becomes of the rows. -/
theorem insertMany_alike (hnamed : Entity.NamedFields e.fields) (hrepeats : m.Repeats e handlers)
    (rows : List Json) {x y : Exchange} (hx : x.registry.handlers = handlers)
    (hy : y.registry.handlers = handlers) (hreplies : x.replies = y.replies) :
    let one := (m.insertMany e rows).run x
    let two := (m.insertMany e rows).run y
    List.Forall₂ (Alike (SameWritten m.dialect e)) one.1 two.1 ∧ one.2.replies = two.2.replies := by
  induction rows generalizing x y with
  | nil => exact ⟨.nil, hreplies⟩
  | cons data rest ih =>
    obtain ⟨hfirst, hreplies'⟩ := insertOne_alike hnamed hrepeats data hx hy hreplies
    obtain ⟨-, -, -, hx'⟩ := insertOne_on hnamed hrepeats data hx
    obtain ⟨-, -, -, hy'⟩ := insertOne_on hnamed hrepeats data hy
    obtain ⟨hrest, hlast⟩ := ih hx' hy' hreplies'
    exact ⟨.cons hfirst hrest, hlast⟩

theorem insertMany_sendsAlone (hnamed : Entity.NamedFields e.fields)
    (hrepeats : m.Repeats e handlers) (rows : List Json) {x : Exchange}
    (hx : x.registry.handlers = handlers) : ∃ sent : List (List Statement),
      ((m.insertMany e rows).run x).2.log = x.log ++ sent.flatten.map .query
        ∧ ((m.insertMany e rows).run x).2.registry.handlers = handlers
        ∧ List.Forall₂ (m.SendsAlone e handlers) rows sent := by
  induction rows generalizing x with
  | nil => exact ⟨[], (List.append_nil _).symm, hx, .nil⟩
  | cons data rest ih =>
    obtain ⟨first, hfirst, halone⟩ := insertOne_sendsAlone hnamed hrepeats data hx
    obtain ⟨-, -, -, hx'⟩ := insertOne_on hnamed hrepeats data hx
    obtain ⟨later, hlater, hlast, hrest⟩ := ih hx'
    refine ⟨first :: later, ?_, hlast, .cons halone hrest⟩
    rw [insertMany_cons, hlater, hfirst, List.flatten_cons, List.map_append, List.append_assoc]

/-- Without a row for which no statement can be made, the same becomes of the others. -/
theorem insertMany_erase (hnamed : Entity.NamedFields e.fields) (hrepeats : m.Repeats e handlers)
    {before : List Json} {data : Json} (after : List Json) {x : Exchange} {error : DataError}
    (hx : x.registry.handlers = handlers)
    (hfault : ((m.insertCommand e data).on ((m.insertMany e before).run x).2).1 = .error error) :
    let all := (m.insertMany e (before ++ data :: after)).run x
    let others := (m.insertMany e (before ++ after)).run x
    List.Forall₂ (Alike (SameWritten m.dialect e)) (all.1.eraseIdx before.length) others.1
      ∧ all.2.replies = others.2.replies := by
  obtain ⟨-, -, hmiddle, -⟩ := insertMany_sendsAlone hnamed hrepeats before hx
  obtain ⟨-, -, hreplies, hlater⟩ := insertOne_on hnamed hrepeats data hmiddle
  rw [hfault] at hreplies
  obtain ⟨hrest, hlast⟩ := insertMany_alike hnamed hrepeats after hlater hmiddle hreplies
  obtain ⟨hfirst, -⟩ := insertMany_alike hnamed hrepeats before hx hx rfl
  dsimp only
  rw [insertMany_append, insertMany_append, insertMany_cons]
  have hlength := insertMany_length (m := m) (e := e) before x
  rw [← hlength, List.eraseIdx_append_of_length_le (Nat.le_refl _), Nat.sub_self]
  exact ⟨List.rel_append hfirst hrest, hlast⟩

/-! ## Main statement -/

theorem outcome_index (i : Nat) (r : Except DataError Written) : ∃ members,
    Written.outcome i r = .obj members ∧ Dict.get? members "index" = some (.int i) := by
  cases r with
  | ok w =>
    obtain ⟨members, hmembers, hget⟩ := @Document.get?_objectOf
      [("index", some (.int i)), ("success", some (.bool true)), ("data", some w.data)] (by simp)
    exact ⟨members, hmembers, hget "index"⟩
  | error fault =>
    obtain ⟨members, hmembers, hget⟩ := @Document.get?_objectOf
      [("index", some (.int i)), ("success", some (.bool false)), ("error",
        some (Document.objectOf [("code", some (.str fault.code)),
          ("message", some (.str fault.message))]))] (by simp)
    exact ⟨members, hmembers, hget "index"⟩

/-- Where handlers repeat themselves, rows that are inserted together are answered in their order,
each with its place, and each as it is answered after the rows before it. What is sent is what the
rows send alone, but for keys that are drawn. A row either sends one statement and takes a reply for
it; or it fails, sends nothing, takes no reply, and without it the same becomes of the others. -/
theorem rows_are_inserted_alone (hnamed : Entity.NamedFields e.fields) (x : Exchange)
    (hrepeats : m.Repeats e x.registry.handlers) (rows : List Json) :
    let all := (m.insertMany e rows).run x
    let before := fun i => ((m.insertMany e (rows.take i)).run x).2
    (∃ items, Written.outcomes all.1 = .arr items ∧ items.length = rows.length
        ∧ ∀ i data, rows[i]? = some data → ∃ members,
          all.1[i]? = some ((m.insertOne e data).on (before i)).1
            ∧ items[i]? = some (.obj members) ∧ Dict.get? members "index" = some (.int i)
            ∧ .obj members = Written.outcome i ((m.insertOne e data).on (before i)).1)
      ∧ (∃ sent : List (List Statement), all.2.log = x.log ++ sent.flatten.map .query
        ∧ List.Forall₂ (m.SendsAlone e x.registry.handlers) rows sent)
      ∧ ∀ i data, rows[i]? = some data →
        let one := (m.insertOne e data).on (before i)
        let others := (m.insertMany e (rows.eraseIdx i)).run x
        (∃ s, one.2.log = (before i).log ++ [.query s]
            ∧ one.2.replies = (before i).replies.drop 1)
          ∨ ∃ error, one.1 = .error error ∧ one.2.log = (before i).log
            ∧ one.2.replies = (before i).replies
            ∧ List.Forall₂ (Alike (SameWritten m.dialect e)) (all.1.eraseIdx i) others.1
            ∧ all.2.replies = others.2.replies := by
  intro all before
  refine ⟨⟨all.1.mapIdx Written.outcome, rfl, ?_, fun i data hi => ?_⟩, ?_, fun i data hi => ?_⟩
  · rw [List.length_mapIdx, insertMany_length]
  · have hresult := insertMany_getElem? (m := m) (e := e) hi x
    obtain ⟨members, hmembers, hindex⟩ := outcome_index i ((m.insertOne e data).on (before i)).1
    refine ⟨members, hresult, ?_, hindex, hmembers.symm⟩
    rw [List.getElem?_mapIdx, hresult, ← hmembers]
    rfl
  · obtain ⟨sent, hlog, -, halone⟩ := insertMany_sendsAlone hnamed hrepeats rows rfl
    exact ⟨sent, hlog, halone⟩
  · obtain ⟨-, -, hmiddle, -⟩ := insertMany_sendsAlone hnamed hrepeats (rows.take i) rfl
    obtain ⟨hone, hlog, hreplies, -⟩ := insertOne_on hnamed hrepeats data hmiddle
    cases hcommand : ((m.insertCommand e data).on (before i)).1 with
    | ok c =>
      rw [hcommand] at hlog hreplies
      exact .inl ⟨c.statement m.dialect, hlog, hreplies⟩
    | error error =>
      have hothers := insertMany_erase hnamed hrepeats (rows.drop (i + 1)) rfl hcommand
      rw [hcommand] at hone hlog hreplies
      obtain ⟨hlt, rfl⟩ := List.getElem?_eq_some_iff.mp hi
      have hparts : rows.take i ++ rows[i] :: rows.drop (i + 1) = rows := by
        rw [List.getElem_cons_drop, List.take_append_drop]
      rw [hparts, ← List.eraseIdx_eq_take_drop_succ, List.length_take,
        Nat.min_eq_left (Nat.le_of_lt hlt)] at hothers
      refine .inr ⟨error, hone, ?_, hreplies, hothers⟩
      exact hlog.trans (List.append_nil _)

/-- The title as a key; none for a row without a title. -/
def titled : Handler where
  identity := 0
  generate
    | _, _, some (.obj row) =>
      match Dict.get? row "title" with
      | some title => .value title
      | none => .error "no title"
    | _, _, _ => .crash none
  configFault _ := none

/-- Of three rows, the one without a title leaves the reply to the one after it. -/
theorem rows_are_inserted_alone_tickets :
    let m : Engine := { randomKeys := fun _ => "key" }
    let lift : Json := .obj [("title", .str "Lift")]
    let door : Json := .obj [("title", .str "Door")]
    let x : Exchange := {
      replies := [.rows [[("id", .str "Lift")]], .failure "busy"]
      registry := { handlers := [("counter", titled)] } }
    let all := (m.insertMany tickets [lift, .obj [], door]).run x
    let others := (m.insertMany tickets [lift, door]).run x
    Entity.NamedFields tickets.fields ∧ m.Repeats tickets x.registry.handlers
      ∧ all.1[1]? = some (.error (.keyGeneration "tickets" "no title"))
      ∧ all.1[2]? = some (.error (.database "busy"))
      ∧ List.Forall₂ (Alike (SameWritten m.dialect tickets)) (all.1.eraseIdx 1) others.1 := by
  intro m lift door x all others
  have hrepeats : m.Repeats tickets x.registry.handlers := by
    refine ⟨fun _ => (by decide : "key" ≠ ""), fun h hh => ?_⟩
    cases hh
    intro runs runs' entity row
    cases row with
    | none => rfl
    | some given => cases given <;> rfl
  obtain ⟨-, -, hrow⟩ := rows_are_inserted_alone named_tickets x hrepeats [lift, .obj [], door]
  have hlog : ((m.insertOne tickets (.obj [])).on ((m.insertMany tickets [lift]).run x).2).2.log
      = ((m.insertMany tickets [lift]).run x).2.log := rfl
  refine ⟨named_tickets, hrepeats, rfl, rfl, ?_⟩
  obtain ⟨s, hsent, -⟩ | ⟨error, -, -, -, hothers, -⟩ := hrow 1 (.obj []) rfl
  · simp [hlog] at hsent
  · exact hothers

end Engine
end EntityMapper
