import EntityMapper.Proofs.Dialect.Stored
import EntityMapper.Proofs.Engine.Rules
import EntityMapper.Proofs.Text.Decimal

/-!
# Generated keys

A key that the database does not count is made when a row is inserted: it is drawn at random, or the
handler of the entity makes it. Nothing else gets into the column of the key, and without a key that is
text of some length the row is not sent.
-/

namespace EntityMapper

open Sql Sql.Command

/-! ## Texts of keys -/

theorem Double.Layout.positionalText_ne_nil (l : Layout) (ds : List Char) (exponent : Int) :
    l.positionalText ds exponent ≠ [] := by
  have hwhole (places : Nat) (hplaces : 0 < places) :
      ds.take places ++ List.replicate (places - ds.length) '0' ≠ [] := by
    intro h
    have hlength := congrArg List.length h
    simp only [List.length_append, List.length_take, List.length_replicate, List.length_nil] at hlength
    omega
  unfold positionalText
  split
  · exact List.cons_ne_nil _ _
  · dsimp only
    split
    · simp
    · exact hwhole _ (Nat.succ_pos _)
    · simp

theorem Double.Layout.text_ne_nil (l : Layout) (x : Double) : l.text x ≠ [] := by
  unfold text
  dsimp only
  split
  · simp
  · split
    · simp [positionalText_ne_nil]
    · split
      · simp [positionalText_ne_nil]
      · simp [exponentText]

/-- The text that a value is stored as when it is a key: that of a string, or the text of a number. -/
def Json.keyText? : Json → Option String
  | .str s => some s
  | .int n => some (Json.int n).compact
  | .float x => some (Json.float x).compact
  | _ => none

variable {d : Dialect} {m : Engine} {e : Entity} {f : Field} {row : Row} {v w : Json}

theorem Field.checkTextKey_iff : f.checkTextKey v = .ok w ↔
    ∃ key, v.keyText? = some key ∧ key ≠ "" ∧ w = .str key := by
  cases v with
  | str s =>
    simp only [checkTextKey, Json.keyText?, Option.some.injEq]
    split
    · rename_i hempty
      simp [refuse, hempty]
    · rename_i hs
      simp [hs, eq_comm]
  | int n =>
    have htext : (Json.int n).compact ≠ "" := by
      simp [Json.compact, Json.chars, Text.Decimal.ofInt_ne_nil]
    simp [checkTextKey, Json.keyText?, htext, eq_comm]
  | float x =>
    have htext : (Json.float x).compact ≠ "" := by
      simp [Json.compact, Json.chars, Double.Layout.text_ne_nil]
    simp [checkTextKey, Json.keyText?, htext, eq_comm]
  | _ => simp [checkTextKey, Json.keyText?, refuse]

/-! ## The column of the key -/

theorem Entity.primaryFormat_eq (e : Entity) :
    e.primary.kind = .primary e.primaryFormat.1 e.primaryFormat.2 := by
  have hprimary := e.primary_mem.2
  unfold Field.isPrimary at hprimary
  unfold primaryFormat
  split at hprimary
  · rename_i format handler hkind
    rw [hkind]
  · cases hprimary

theorem encode_primary_iff (hformat : e.primaryFormat.1 ≠ .integer) (hv : v.isNull = false) :
    d.encode e.primary v = .ok w ↔ ∃ key, v.keyText? = some key ∧ key ≠ "" ∧ w = .str key := by
  have hkind := e.primaryFormat_eq
  have hcheck : e.primary.check v = e.primary.checkTextKey v := by
    rw [Field.check_of_present hv, Field.checkPresent, hkind]
    dsimp only
    unfold Field.checkKey
    split
    · rename_i hinteger
      exact absurd hinteger hformat
    · rfl
  rw [← Field.checkTextKey_iff (f := e.primary), Dialect.encode_eq, hcheck, hkind]
  -- A key is sent as it was checked.
  cases e.primary.checkTextKey v with
  | error violation => simp [Except.map]
  | ok taken => cases taken <;> simp [Except.map, Dialect.form]

/-- The key is among the values that are given, and it alone is for the key's column. -/
def GivesKey (e : Entity) (key : String) (given : List (Field × Json)) : Prop :=
  ∀ g, g ∈ given ∧ g.1.name = e.primary.name ↔ g = (e.primary, .str key)

theorem givesKey_of_encoded {given : List (Field × Json)} (hnamed : Entity.NamedFields e.fields)
    (hgiven : Encoded d row e.storedFields given) {key : String}
    (hkey : (e.primary, .str key) ∈ given) : GivesKey e key given := by
  have hnames : (given.map (·.1.name)).Nodup := by
    have hfields : given.map (·.1.name) = (given.map Prod.fst).map (·.name) := by
      rw [List.map_map]
      rfl
    rw [hfields, hgiven.fields]
    refine hnamed.distinct.sublist (List.Sublist.map _ ?_)
    exact List.filter_sublist.trans List.filter_sublist
  refine fun g => ⟨fun ⟨hg, hname⟩ => ?_, fun h => ?_⟩
  · exact Keyed.eq_of_key_eq hnames hg hkey hname
  · rw [h]
    exact ⟨hkey, rfl⟩

/-- Each value of the row, its key apart, is one that the field takes. -/
def Entity.Storable (e : Entity) (row : Row) : Prop :=
  ∀ f ∈ e.storedFields, f.name ≠ e.primary.name → ∀ v, row.get? f.name = some v →
    ∃ taken, f.check v = .ok taken

theorem exists_assignments {fields : List Field}
    (h : ∀ f ∈ fields, ∀ v, row.get? f.name = some v → ∃ w, d.encode f v = .ok w) :
    ∃ as, assignments d row fields = .ok as := by
  induction fields with
  | nil => exact ⟨[], rfl⟩
  | cons f fs ih =>
    rw [List.forall_mem_cons] at h
    obtain ⟨rest, hrest⟩ := ih h.2
    unfold assignments
    cases hv : row.get? f.name with
    | none => exact ⟨rest, hrest⟩
    | some v =>
      obtain ⟨w, hw⟩ := h.1 v hv
      refine ⟨⟨f.name, ⟨w, some f⟩⟩ :: rest, ?_⟩
      unfold Condition.operand
      dsimp only
      rw [hw, hrest]
      rfl

theorem exists_inserting (hnamed : Entity.NamedFields e.fields)
    (hformat : e.primaryFormat.1 ≠ .integer) (hrow : e.Storable row) {key : String}
    (htext : v.keyText? = some key) (hkey : key ≠ "") :
    ∃ c, inserting d e (row.insert e.primary.name v) = .ok c := by
  have hencode : ∀ f ∈ e.storedFields, ∀ u, (row.insert e.primary.name v).get? f.name = some u →
      ∃ w, d.encode f u = .ok w := by
    intro f hf u hu
    by_cases hname : f.name = e.primary.name
    · obtain rfl : f = e.primary :=
        Keyed.eq_of_key_eq hnamed.distinct (List.mem_filter.mp hf).1 e.primary_mem.1 hname
      rw [Dict.get?_insert_self] at hu
      cases hu
      have hnull : v.isNull = false := by cases v <;> first | rfl | cases htext
      exact ⟨_, (encode_primary_iff hformat hnull).mpr ⟨key, htext, hkey, rfl⟩⟩
    · rw [Dict.get?_insert_of_ne _ _ hname] at hu
      exact (d.encode_ok_iff f u).mpr (hrow f hf hname u hu)
  obtain ⟨as, has⟩ := exists_assignments hencode
  refine ⟨.insert e.name as (storedNames e), ?_⟩
  unfold inserting
  rw [has]
  rfl

theorem inserting_keyed (hnamed : Entity.NamedFields e.fields)
    (hformat : e.primaryFormat.1 ≠ .integer) (hv : v.isNull = false) {c : Command}
    (h : inserting d e (row.insert e.primary.name v) = .ok c) :
    ∃ key given, v.keyText? = some key ∧ key ≠ "" ∧ GivesKey e key given
      ∧ (c.statement d).sql = insertText d e given
      ∧ (c.statement d).parameters = given.map Prod.snd := by
  unfold inserting at h
  obtain ⟨as, has, h⟩ := Result.of_bind h
  cases h
  obtain ⟨given, hgiven, rfl⟩ := encoded_of_assignments has
  obtain ⟨w, hw, hencode⟩ := hgiven.exists_given e.primary_stored (Dict.get?_insert_self _ _ _)
  obtain ⟨key, htext, hne, rfl⟩ := (encode_primary_iff hformat hv).mp hencode
  exact ⟨key, given, htext, hne, givesKey_of_encoded hnamed hgiven hw, insert_statement d e given⟩

/-! ## Making keys -/

namespace Engine

/-- The value that is made for a row: the next random key, or what the handler of the entity answers
when it is run once more. An answer of null is none. -/
def Makes (m : Engine) (e : Entity) (x : Exchange) (row : Row) (v : Json) : Prop :=
  match e.primaryFormat with
  | (.integer, _) => False
  | (.uuid, _) => v = .str (m.randomKeys x.drawn)
  | (.custom, handler) => ∃ h, x.registry.handlers.get? (handler.getD "") = some h
    ∧ h.generate (x.registry.runsOf h.identity + 1) e.name (some (.obj row)) = .value v
    ∧ v.isNull = false

theorem outcome_eq_generated {key : String} {attempt : Attempt} :
    Registry.outcome key attempt = .generated v ↔ attempt = .value v ∧ v.isNull = false := by
  cases attempt with
  | value u =>
    cases u <;> simp only [Registry.outcome, KeyOutcome.generated.injEq, Attempt.value.injEq]
      <;> grind [Json.isNull]
  | error message => simp [Registry.outcome]
  | crash message => simp [Registry.outcome]

variable {x y : Exchange} {handler : Option String}

theorem makes_uuid (hformat : e.primaryFormat = (.uuid, handler)) :
    m.Makes e x row v ↔ v = .str (m.randomKeys x.drawn) := by
  unfold Makes
  rw [hformat]

theorem makes_custom (hformat : e.primaryFormat = (.custom, handler)) :
    m.Makes e x row v ↔ ∃ h, x.registry.handlers.get? (handler.getD "") = some h
      ∧ h.generate (x.registry.runsOf h.identity + 1) e.name (some (.obj row)) = .value v
      ∧ v.isNull = false := by
  unfold Makes
  rw [hformat]

theorem Makes.isNull (h : m.Makes e x row v) : v.isNull = false := by
  unfold Makes at h
  split at h
  · exact h.elim
  · rw [h]
    rfl
  · obtain ⟨_, -, -, hnull⟩ := h
    exact hnull

theorem Makes.unique (hv : m.Makes e x row v) (hw : m.Makes e x row w) : v = w := by
  unfold Makes at hv
  split at hv
  · exact hv.elim
  · rename_i huuid
    rw [hv, (makes_uuid huuid).mp hw]
  · rename_i hcustom
    obtain ⟨h, hbound, hvalue, -⟩ := hv
    obtain ⟨h', hbound', hvalue', -⟩ := (makes_custom hcustom).mp hw
    cases hbound.symm.trans hbound'
    cases hvalue.symm.trans hvalue'
    rfl

/-- A row is given its key exactly when one is made. To make one sends nothing. -/
theorem withKey_cases (m : Engine) (hformat : e.primaryFormat.1 ≠ .integer) (row : Row)
    (x : Exchange) :
    (∃ v y, m.Makes e x row v ∧ (m.withKey e row).on x = (.ok (row.insert e.primary.name v), y)
        ∧ y.log = x.log)
      ∨ (¬∃ v, m.Makes e x row v)
        ∧ ∃ error y, (m.withKey e row).on x = (.error error, y) ∧ y.log = x.log := by
  unfold withKey
  split
  · rename_i hinteger
    exact absurd (congrArg Prod.fst hinteger) hformat
  · rename_i huuid
    exact .inl ⟨_, _, (makes_uuid huuid).mpr rfl, rfl, rfl⟩
  · rename_i handler hcustom
    have hrun : (Call.generate (handler.getD "") e.name (some (.obj row))).on x
        = (.ok (x.registry.generate (handler.getD "") e.name (some (.obj row))).1,
          { x with registry := (x.registry.generate (handler.getD "") e.name (some (.obj row))).2 }) :=
      rfl
    simp only [makes_custom hcustom]
    rw [Call.on_bind_ok hrun]
    unfold Registry.generate
    cases hbound : x.registry.handlers.get? (handler.getD "") with
    | none =>
      refine .inr ⟨?_, _, _, rfl, rfl⟩
      rintro ⟨_, _, hfound, -⟩
      cases hfound
    | some h =>
      dsimp only
      cases houtcome : Registry.outcome (handler.getD "")
          (h.generate (x.registry.runsOf h.identity + 1) e.name (some (.obj row))) with
      | generated v =>
        exact .inl ⟨v, _, ⟨h, rfl, outcome_eq_generated.mp houtcome⟩, rfl, rfl⟩
      | failed message =>
        refine .inr ⟨?_, _, _, rfl, rfl⟩
        rintro ⟨v, _, hfound, hmade⟩
        cases hfound
        rw [outcome_eq_generated.mpr hmade] at houtcome
        cases houtcome

/-- What comes of the checks and the key before a row is sent. -/
theorem prepareInsert_cases (m : Engine) (hformat : e.primaryFormat.1 ≠ .integer) (data : Json)
    (x : Exchange) :
    (∃ row v y, data = .obj row ∧ m.Makes e x (withDefaults e row) v
        ∧ (m.prepareInsert e data).on x
          = (.ok ((withDefaults e row).insert e.primary.name v), y) ∧ y.log = x.log)
      ∨ ∃ error y, (m.prepareInsert e data).on x = (.error error, y) ∧ y.log = x.log := by
  unfold prepareInsert
  cases hwritable : writable e data with
  | error violation => exact .inr ⟨_, _, rfl, rfl⟩
  | ok row =>
    obtain ⟨rfl, -⟩ := obj_of_writable hwritable
    rw [Call.on_bind_ok (Call.on_ofExcept_ok row x)]
    dsimp only
    cases e.validateRow m.patterns (withDefaults e row) with
    | error violation => exact .inr ⟨_, _, rfl, rfl⟩
    | ok u =>
      rw [Call.on_bind_ok (Call.on_ofExcept_ok u x)]
      obtain ⟨v, y, hmakes, hkeyed, hlog⟩ | ⟨-, hfailed⟩ :=
        withKey_cases m hformat (withDefaults e row) x
      · exact .inl ⟨row, v, y, rfl, hmakes, hkeyed, hlog⟩
      · exact .inr hfailed

/-! ## Rows with keys -/

theorem write_log (m : Engine) (e : Entity) (c : Command) (x : Exchange) :
    ((m.write e c).on x).2.log = x.log ++ [.query (c.statement m.dialect)] := by
  have hlog := Call.on_query_log (c.statement m.dialect) x
  unfold write run
  rcases hquery : (Call.query (c.statement m.dialect)).on x with ⟨error | rows, y⟩
  · rw [Call.on_bind_error hquery, ← hlog, hquery]
  · rw [Call.on_bind_ok hquery, ← hlog, hquery]
    rfl

theorem insertOne_of_prepared {data : Json} {keyed : Row}
    (hprepared : (m.prepareInsert e data).on x = (.ok keyed, y)) :
    (∃ c, inserting m.dialect e keyed = .ok c
        ∧ ((m.insertOne e data).on x).2.log = y.log ++ [.query (c.statement m.dialect)])
      ∨ ∃ error, (m.insertOne e data).on x = (.error error, y) := by
  unfold insertOne
  rw [Call.on_bind_ok hprepared]
  cases hc : inserting m.dialect e keyed with
  | error error => exact .inr ⟨error, rfl⟩
  | ok c =>
    refine .inl ⟨c, rfl, ?_⟩
    rw [Call.on_bind_ok (Call.on_lift (.ok c) y), ← write_log m e c y]
    rcases hwrite : (m.write e c).on y with ⟨error | rows, z⟩
    · rw [Call.on_bind_error hwrite]
    · rw [Call.on_bind_ok hwrite]
      rfl

/-- What comes of inserting a row: one INSERT, in which the key is one that was made, or an error
without anything that is sent. -/
theorem insertOne_cases (m : Engine) (hnamed : Entity.NamedFields e.fields)
    (hformat : e.primaryFormat.1 ≠ .integer) (data : Json) (x : Exchange) :
    (∃ s row v key given, data = .obj row ∧ ((m.insertOne e data).on x).2.log = x.log ++ [.query s]
        ∧ m.Makes e x (withDefaults e row) v ∧ v.keyText? = some key ∧ key ≠ ""
        ∧ GivesKey e key given ∧ s.sql = insertText m.dialect e given
        ∧ s.parameters = given.map Prod.snd)
      ∨ ∃ error, ((m.insertOne e data).on x).1 = .error error
        ∧ ((m.insertOne e data).on x).2.log = x.log := by
  obtain ⟨row, v, y, rfl, hmakes, hprepared, hlog⟩ | ⟨error, y, hfailed, hlog⟩ :=
    prepareInsert_cases m hformat data x
  · obtain ⟨c, hc, hsent⟩ | ⟨error, hfailed⟩ := insertOne_of_prepared hprepared
    · obtain ⟨key, given, htext, hne, hgives, hsql, hparameters⟩ :=
        inserting_keyed hnamed hformat hmakes.isNull hc
      rw [hlog] at hsent
      exact .inl ⟨_, row, v, key, given, rfl, hsent, hmakes, htext, hne, hgives, hsql, hparameters⟩
    · exact .inr ⟨error, by rw [hfailed], by rw [hfailed, hlog]⟩
  · have hfailed : (m.insertOne e data).on x = (.error error, y) := Call.on_bind_error hfailed
    exact .inr ⟨error, by rw [hfailed], by rw [hfailed, hlog]⟩

/-- A row that is fit to be stored is sent exactly when a key is made that is text of some length. -/
theorem insertOne_sent_iff (m : Engine) (hnamed : Entity.NamedFields e.fields)
    (hformat : e.primaryFormat.1 ≠ .integer) (hwritable : writable e (.obj row) = .ok row)
    (hrow : e.Complete m.patterns (withDefaults e row)) (hvalues : e.Storable (withDefaults e row))
    (x : Exchange) :
    (∃ s, ((m.insertOne e (.obj row)).on x).2.log = x.log ++ [.query s])
      ↔ ∃ v key, m.Makes e x (withDefaults e row) v ∧ v.keyText? = some key ∧ key ≠ "" := by
  have hcases := insertOne_cases m hnamed hformat (.obj row) x
  constructor
  · rintro ⟨s, hsent⟩
    obtain ⟨_, given, v, key, _, hdata, -, hmakes, htext, hkey, -⟩ | ⟨_, -, hlog⟩ := hcases
    · cases hdata
      exact ⟨v, key, hmakes, htext, hkey⟩
    · simp [hlog] at hsent
  · rintro ⟨v, key, hmakes, htext, hkey⟩
    obtain ⟨v', y, hmakes', hkeyed, hlog⟩ | ⟨hnone, -⟩ :=
      withKey_cases m hformat (withDefaults e row) x
    · obtain rfl := hmakes'.unique hmakes
      obtain ⟨c, hc⟩ := exists_inserting (d := m.dialect) hnamed hformat hvalues htext hkey
      obtain ⟨later, hsent⟩ := insertOne_of_complete hwritable hrow hkeyed hc
      obtain ⟨s, _, _, _, _, -, hone, -⟩ | ⟨_, -, hnothing⟩ := hcases
      · exact ⟨s, hone⟩
      · simp [hsent, hlog] at hnothing
    · exact absurd ⟨v, hmakes⟩ hnone

/-! ## Main statement -/

/-- Where keys are not counted by the database, whatever row is given and whatever comes of making a
key: either one INSERT is sent, in which the key's column is given the text of the value that was made,
and nothing else; or the insertion fails and sends nothing. A row that is fit to be stored is sent
exactly when such a text is made. Rows that are inserted together are inserted one after the other. -/
theorem inserted_keys_are_made (m : Engine) (hnamed : Entity.NamedFields e.fields)
    (hformat : e.primaryFormat.1 ≠ .integer) :
    (∀ (data : Json) (x : Exchange),
      (∃ s row v key given, data = .obj row
          ∧ ((m.insertOne e data).on x).2.log = x.log ++ [.query s]
          ∧ m.Makes e x (withDefaults e row) v ∧ v.keyText? = some key ∧ key ≠ ""
          ∧ GivesKey e key given ∧ s.sql = insertText m.dialect e given
          ∧ s.parameters = given.map Prod.snd)
        ∨ ∃ error, ((m.insertOne e data).on x).1 = .error error
          ∧ ((m.insertOne e data).on x).2.log = x.log)
      ∧ (∀ (row : Row) (x : Exchange), writable e (.obj row) = .ok row →
        e.Complete m.patterns (withDefaults e row) → e.Storable (withDefaults e row) →
        ((∃ s, ((m.insertOne e (.obj row)).on x).2.log = x.log ++ [.query s])
          ↔ ∃ v key, m.Makes e x (withDefaults e row) v ∧ v.keyText? = some key ∧ key ≠ ""))
      ∧ ∀ (before after : List Json) (data : Json) (x : Exchange),
        let first := (m.insertMany e before).run x
        let one := (m.insertOne e data).on first.2
        let last := (m.insertMany e after).run one.2
        (m.insertMany e (before ++ data :: after)).run x = (first.1 ++ one.1 :: last.1, last.2) := by
  refine ⟨insertOne_cases m hnamed hformat, fun row x hwritable hrow hvalues =>
    insertOne_sent_iff m hnamed hformat hwritable hrow hvalues x, fun before after data x => ?_⟩
  exact (insertMany_append before _ x).trans (by rw [insertMany_cons])

def tickets : Entity := ⟨"tickets", [.primaryCustom "id" "counter", .text "title"], {}, rfl⟩

theorem named_tickets : Entity.NamedFields tickets.fields := by
  constructor
  · decide
  · decide

/-- The number of times it was run, and no key for a row without a title. -/
def counter : Handler where
  identity := 0
  generate
    | runs, _, some (.obj row) => if Dict.contains row "title" then .value (.int runs) else .value .null
    | _, _, _ => .crash none
  configFault _ := none

/-- Of two rows, the one that the handler makes a key for is sent with it. -/
theorem inserted_keys_are_made_tickets :
    let m : Engine := { randomKeys := fun _ => "" }
    let x : Exchange := { registry := { handlers := [("counter", counter)], runs := [(0, 6)] } }
    Entity.NamedFields tickets.fields ∧ tickets.primaryFormat.1 ≠ .integer
      ∧ ((m.insertOne tickets (.obj [("title", .str "Lift")])).on x).2.log
        = [.query ⟨"INSERT INTO \"tickets\" (\"id\", \"title\") VALUES (?, ?)"
          ++ " RETURNING \"id\", \"title\"", [.str "7", .str "Lift"]⟩]
      ∧ (∃ v key, m.Makes tickets x [("title", .str "Lift")] v ∧ v.keyText? = some key ∧ key ≠ "")
      ∧ ((m.insertOne tickets (.obj [])).on x).2.log = [] := by
  intro m x
  have hformat : tickets.primaryFormat.1 ≠ .integer := by decide
  obtain ⟨-, hsent, -⟩ := inserted_keys_are_made m named_tickets hformat
  have hlog : ((m.insertOne tickets (.obj [("title", .str "Lift")])).on x).2.log
      = [.query ⟨"INSERT INTO \"tickets\" (\"id\", \"title\") VALUES (?, ?)"
        ++ " RETURNING \"id\", \"title\"", [.str "7", .str "Lift"]⟩] := by cbv
  have hvalues : tickets.Storable [("title", .str "Lift")] := by
    intro f hf hname v hv
    obtain rfl | rfl := List.mem_pair.mp hf
    · exact absurd rfl hname
    · cases hv
      exact ⟨_, rfl⟩
  have hmade := (hsent [("title", .str "Lift")] x rfl (Entity.validateRow_iff.mp rfl) hvalues).mp
  exact ⟨named_tickets, hformat, hlog, hmade ⟨_, hlog⟩, rfl⟩

end Engine

end EntityMapper
