import EntityMapper.Proofs.Engine.Writes
import EntityMapper.Proofs.Entity.Rows
import EntityMapper.Proofs.Entity.Stored
import EntityMapper.Proofs.Sql.Alignment

/-!
# Writes keep to the rules

Whatever a write sends stores allowed values only, and leaves no required field empty. A row that
breaks a rule is answered by an error, and nothing is sent for it.
-/

namespace EntityMapper

open Sql Sql.Command

variable {patterns : Pattern.Reader} {d : Dialect} {m : Engine} {e : Entity} {f : Field}
  {row row' : Row} {x : Exchange} {given : List (Field × Json)}

/-- The value goes to a stored field, and keeps to the length and the pattern or to the range that the
field sets. -/
structure AllowedValue (patterns : Pattern.Reader) (e : Entity) (g : Field × Json) : Prop where
  stored : g.1 ∈ e.storedFields
  text {most least : Option Nat} {pattern : Option String} {s : String} :
    g.1.kind = .text most least pattern → g.2 = .str s → AllowedText patterns most least pattern s
  number {minimum maximum : Option Double.Extended} :
    g.1.kind = .number minimum maximum → g.2.IsNumber →
      ∃ x, g.2.double? = some x ∧ (∀ least ∈ minimum, Double.Extended.lt (.finite x) least = false)
        ∧ ∀ most ∈ maximum, most.lt (.finite x) = false

/-- An INSERT gives every required field a value, an UPDATE takes none away, and both give fields
only what these allow. -/
structure Statement.KeepsRules (patterns : Pattern.Reader) (d : Dialect) (e : Entity)
    (s : Statement) : Prop where
  insert : "INSERT ".toList <+: s.sql.toList → ∃ given,
    s.sql = insertText d e given ∧ s.parameters = given.map Prod.snd
      ∧ (∀ g ∈ given, AllowedValue patterns e g)
      ∧ ∀ f ∈ e.storedFields, f.required = true → f.isPrimary = false →
        ∃ v, (f, v) ∈ given ∧ v.isNull = false
  update : "UPDATE ".toList <+: s.sql.toList → ∃ given text values,
    s.sql = updateText d e given ++ text ∧ s.parameters = given.map Prod.snd ++ values
      ∧ (∀ g ∈ given, AllowedValue patterns e g)
      ∧ ∀ g ∈ given, g.1.required = true → g.2.isNull = false

/-- The row that the write gives breaks a rule; a row to be inserted has its defaults then. -/
def Write.Breaks (patterns : Pattern.Reader) (e : Entity) : Write → Prop
  | insertOne (.obj row) => ¬e.Complete patterns (Engine.withDefaults e row)
  | updateOne _ (.obj row) => ¬e.Permits patterns row
  | updateWhere _ (.obj row) => ¬e.Permits patterns row
  | _ => False

/-! ## Values -/

theorem Sql.Command.Encoded.mem_fields {fields : List Field} (h : Encoded d row fields given)
    {g : Field × Json} (hg : g ∈ given) : g.1 ∈ fields := by
  have hmem : g.1 ∈ given.map Prod.fst := List.mem_map_of_mem hg
  rw [h.fields] at hmem
  exact (List.mem_filter.mp hmem).1

theorem Sql.Command.Encoded.exists_given {fields : List Field} (h : Encoded d row fields given)
    (hf : f ∈ fields) {v : Json} (hv : row.get? f.name = some v) :
    ∃ w, (f, w) ∈ given ∧ d.encode f v = .ok w := by
  have hmem : f ∈ given.map Prod.fst := by
    rw [h.fields]
    exact List.mem_filter.mpr ⟨hf, by simp [hv]⟩
  obtain ⟨⟨_, w⟩, hg, rfl⟩ := List.mem_map.mp hmem
  obtain ⟨v', hv', hencode⟩ := h.values _ hg
  cases hv.symm.trans hv'
  exact ⟨w, hg, hencode⟩

theorem allowedValue_of_allows {g : Field × Json} (hg : g.1 ∈ e.storedFields)
    (h : g.1.Allows patterns g.2) : AllowedValue patterns e g where
  stored := hg
  text hkind hs := (hs ▸ h).text hkind
  number hkind hnumber := h.number hkind hnumber

theorem allowedValue_of_encoded {fields : List Field} (h : Encoded d row fields given)
    (hfields : ∀ f ∈ fields, f ∈ e.storedFields)
    (hallowed : ∀ f ∈ fields, ∀ v, row.get? f.name = some v → f.Allows patterns v) :
    ∀ g ∈ given, AllowedValue patterns e g := by
  intro g hg
  have hf := h.mem_fields hg
  obtain ⟨v, hv, hencode⟩ := h.values g hg
  exact allowedValue_of_allows (hfields g.1 hf) (Field.allows_encode (hallowed g.1 hf v hv) hencode)

/-! ## Statements -/

theorem keepsRules_word {s : Statement} {w : String} (hs : w.toList <+: s.sql.toList)
    (hlength : 7 ≤ w.toList.length) (hinsert : ¬"INSERT ".toList <+: w.toList)
    (hupdate : ¬"UPDATE ".toList <+: w.toList) : s.KeepsRules patterns d e :=
  ⟨fun h => absurd (List.prefix_of_prefix_length_le h hs hlength) hinsert,
    fun h => absurd (List.prefix_of_prefix_length_le h hs hlength) hupdate⟩

namespace Sql.Command

theorem keepsRules_inserting {c : Command} (hrow : e.Complete patterns row)
    (h : inserting d e row = .ok c) : (c.statement d).KeepsRules patterns d e := by
  unfold inserting at h
  obtain ⟨as, has, h⟩ := Result.of_bind h
  cases h
  obtain ⟨given, hgiven, rfl⟩ := encoded_of_assignments has
  obtain ⟨hsql, hparameters⟩ := insert_statement d e given
  refine ⟨fun _ => ⟨given, hsql, hparameters, ?_, ?_⟩, fun h => ?_⟩
  · exact allowedValue_of_encoded hgiven (fun _ hf => hf) hrow.allowed
  · intro f hf hrequired hprimary
    obtain ⟨v, hv, hnull⟩ := hrow.required f hf hrequired hprimary
    obtain ⟨w, hw, hencode⟩ := hgiven.exists_given hf hv
    exact ⟨w, hw, (Field.isNull_encode hencode).trans hnull⟩
  · have hinsert := begins_insert e.name (given.map assignment) (storedNames e) d
    exact absurd (List.prefix_of_prefix_length_le h hinsert (by decide)) (by decide)

theorem keepsRules_updating {c : Command} {filter : Filter} (hnamed : Entity.NamedFields e.fields)
    (hrow : e.Permits patterns row) (h : updating d e row filter = .ok c) :
    (c.statement d).KeepsRules patterns d e := by
  obtain ⟨given, conditions, hgiven, rfl⟩ := updating_cases h
  cases hempty : given.isEmpty with
  | true =>
    have hselect := begins (c := select (.of e) (storedNames e) conditions none none) rfl d
    exact keepsRules_word hselect (by decide) (by decide) (by decide)
  | false =>
    have hstored : ∀ f ∈ e.storedFields.filter (!·.isPrimary), f ∈ e.storedFields :=
      fun f hf => (List.mem_filter.mp hf).1
    have hpermits : ∀ f ∈ e.storedFields.filter (!·.isPrimary), ∀ v, row.get? f.name = some v →
        ¬(f.required = true ∧ v.isNull = true) ∧ f.Allows patterns v := by
      intro f hf v hv
      have hfield := hnamed.field?_eq (List.mem_filter.mp (hstored f hf)).1
      exact hrow (f.name, v) (Dict.mem_of_get? hv) f hfield
    refine ⟨fun h => ?_, fun _ => ?_⟩
    · have hupdate :=
        begins (c := update e.name (given.map assignment) conditions (storedNames e)) rfl d
      exact absurd (List.prefix_of_prefix_length_le h hupdate (by decide)) (by decide)
    · obtain ⟨text, values, hsql, hparameters⟩ := update_statement d e conditions
      refine ⟨given, text, values, hsql, hparameters, ?_, fun g hg hrequired => ?_⟩
      · exact allowedValue_of_encoded hgiven hstored fun f hf v hv => (hpermits f hf v hv).2
      · obtain ⟨v, hv, hencode⟩ := hgiven.values g hg
        have hnull := (hpermits g.1 (hgiven.mem_fields hg) v hv).1
        rw [Field.isNull_encode hencode]
        simpa [hrequired] using hnull

theorem keepsRules_deleting {c : Command} {filter : Filter} (h : deleting d e filter = .ok c) :
    (c.statement d).KeepsRules patterns d e := by
  obtain ⟨conditions, -, h⟩ := Result.of_bind h
  cases h
  have hdelete := begins (c := delete e.name conditions (storedNames e)) rfl d
  exact keepsRules_word hdelete (by decide) (by decide) (by decide)

end Sql.Command

/-! ## Rows -/

namespace Engine

theorem get?_withKey (h : Call.Returns (m.withKey e row) row') {n : String}
    (hn : n ≠ e.primary.name) : row'.get? n = row.get? n := by
  unfold withKey at h
  split at h
  · rw [Call.returns_pure h]
  · obtain ⟨key, -, h⟩ := Call.returns_bind h
    rw [← Call.returns_pure h, Dict.get?_insert_of_ne _ _ hn]
  · obtain ⟨outcome, -, h⟩ := Call.returns_bind h
    cases outcome with
    | generated v => rw [← Call.returns_pure h, Dict.get?_insert_of_ne _ _ hn]
    | failed message =>
      obtain ⟨_, _, h⟩ := h
      cases h

theorem name_ne_primary (hnamed : Entity.NamedFields e.fields) (hf : f ∈ e.storedFields)
    (hprimary : f.isPrimary = false) : f.name ≠ e.primary.name := by
  intro hname
  have hfound := hnamed.field?_eq (List.mem_filter.mp hf).1
  rw [hname, hnamed.field?_eq e.primary_mem.1] at hfound
  cases hfound
  rw [e.primary_mem.2] at hprimary
  cases hprimary

theorem allows_of_isPrimary (h : f.isPrimary = true) (v : Json) : f.Allows patterns v := by
  unfold Field.isPrimary at h
  unfold Field.Allows
  split at h
  · rename_i hkind
    rw [hkind]
    trivial
  · cases h

theorem complete_withKey (hnamed : Entity.NamedFields e.fields) (hrow : e.Complete patterns row)
    (h : Call.Returns (m.withKey e row) row') : e.Complete patterns row' := by
  constructor
  · intro f hf hrequired hprimary
    rw [get?_withKey h (name_ne_primary hnamed hf hprimary)]
    exact hrow.required f hf hrequired hprimary
  · intro f hf v hv
    cases hprimary : f.isPrimary with
    | true => exact allows_of_isPrimary hprimary v
    | false =>
      rw [get?_withKey h (name_ne_primary hnamed hf hprimary)] at hv
      exact hrow.allowed f hf v hv

theorem complete_prepareInsert (hnamed : Entity.NamedFields e.fields) {data : Json}
    (h : Call.Returns (m.prepareInsert e data) row) : e.Complete m.patterns row := by
  unfold prepareInsert at h
  obtain ⟨given, -, h⟩ := Call.returns_bind h
  obtain ⟨u, hvalid, h⟩ := Call.returns_bind h
  exact complete_withKey hnamed (Entity.validateRow_iff.mp (Call.returns_ofExcept hvalid)) h

theorem permits_prepareChanges {data : Json} (h : m.prepareChanges e data = .ok row) :
    e.Permits m.patterns row := by
  unfold prepareChanges at h
  obtain ⟨given, -, h⟩ := Result.of_bind h
  obtain ⟨u, hvalid, h⟩ := Result.of_bind h
  cases h
  exact Entity.validateChanges_iff.mp hvalid

/-! ## Calls -/

theorem insertOne_keepsRules (hnamed : Entity.NamedFields e.fields) (data : Json) :
    Call.Sends (Statement.KeepsRules m.patterns m.dialect e) (m.insertOne e data) :=
  insertOne_sends fun _ _ hrow hc => keepsRules_inserting (complete_prepareInsert hnamed hrow) hc

theorem write_keepsRules (hnamed : Entity.NamedFields e.fields) (w : Write) (x : Exchange) :
    ∃ sent : List Statement, (w.on m e x).2.log = x.log ++ sent.map .query
      ∧ ∀ s ∈ sent, s.KeepsRules m.patterns m.dialect e := by
  cases w with
  | insertOne data => exact insertOne_keepsRules hnamed data x
  | insertMany rows => exact insertMany_log (insertOne_keepsRules hnamed) rows x
  | updateOne id data =>
    have hsends : Call.Sends (Statement.KeepsRules m.patterns m.dialect e) (m.updateOne e id data) :=
      updateOne_sends fun _ _ hrow hc =>
        keepsRules_updating hnamed (permits_prepareChanges hrow) hc
    exact hsends x
  | deleteOne id =>
    have hsends : Call.Sends (Statement.KeepsRules m.patterns m.dialect e) (m.deleteOne e id) :=
      deleteOne_sends fun _ hc => keepsRules_deleting hc
    exact hsends x
  | updateWhere filter data =>
    have hsends : Call.Sends (Statement.KeepsRules m.patterns m.dialect e)
        (m.updateWhere e filter data) :=
      updateWhere_sends fun _ _ _ _ hrow hc =>
        keepsRules_updating hnamed (permits_prepareChanges hrow) hc
    exact hsends x
  | deleteWhere filter =>
    have hsends : Call.Sends (Statement.KeepsRules m.patterns m.dialect e) (m.deleteWhere e filter) :=
      deleteWhere_sends fun _ _ _ hc => keepsRules_deleting hc
    exact hsends x

/-- A row that keeps to the rules is sent, once it has its key and its values have a stored form. -/
theorem insertOne_of_complete {keyed : Row} {c : Command} {y : Exchange}
    (hwritable : writable e (.obj row) = .ok row) (hrow : e.Complete m.patterns (withDefaults e row))
    (hkey : (m.withKey e (withDefaults e row)).on x = (.ok keyed, y))
    (hc : inserting m.dialect e keyed = .ok c) :
    ∃ later, ((m.insertOne e (.obj row)).on x).2.log
      = y.log ++ .query (c.statement m.dialect) :: later := by
  have hprepared : (m.prepareInsert e (.obj row)).on x = (.ok keyed, y) := by
    unfold prepareInsert
    rw [hwritable, Call.on_bind_ok (Call.on_ofExcept_ok row x)]
    dsimp only
    rw [Entity.validateRow_iff.mpr hrow, Call.on_bind_ok (Call.on_ofExcept_ok () x)]
    exact hkey
  unfold insertOne
  rw [Call.on_bind_ok hprepared, hc, Call.on_bind_ok (Call.on_lift (.ok c) y)]
  unfold write run
  rw [bind_assoc]
  exact Call.query_bind_log (P := fun _ => True) _
    (fun _ => (Call.sends_pure _).bind fun _ _ => Call.sends_pure _) y

/-! ## Broken rules -/

theorem writable_obj (e : Entity) (row : Row) :
    writable e (.obj row) = .ok row ∨ ∃ violation, writable e (.obj row) = .error violation := by
  change (row.forM _ >>= _) = _ ∨ ∃ violation, (row.forM _ >>= _) = _
  cases row.forM fun entry => checkWritable e entry.1 with
  | error violation => exact .inr ⟨violation, rfl⟩
  | ok u => exact .inl rfl

theorem obj_of_writable {data : Json} (h : writable e data = .ok row) :
    data = .obj row ∧ ∀ entry ∈ row, checkWritable e entry.1 = .ok () := by
  cases data with
  | obj given =>
    change (given.forM _ >>= fun _ => pure given) = _ at h
    obtain ⟨_, hchecks, h⟩ := Result.of_bind h
    cases h
    exact ⟨rfl, Result.forM_ok_iff.mp hchecks⟩
  | _ => cases h

theorem exists_error {r : Except Violation Unit} (h : r ≠ .ok ()) :
    ∃ violation, r = .error violation := by
  cases r with
  | error violation => exact ⟨violation, rfl⟩
  | ok u => exact absurd rfl h

theorem insertOne_of_incomplete (h : ¬e.Complete m.patterns (withDefaults e row)) (x : Exchange) :
    ∃ error, (m.insertOne e (.obj row)).on x = (.error error, x) := by
  obtain hrow | ⟨violation, hrow⟩ := writable_obj e row
  · obtain ⟨violation, hvalid⟩ := exists_error (mt Entity.validateRow_iff.mp h)
    refine ⟨.invalid violation, Call.on_bind_error ?_⟩
    unfold prepareInsert
    rw [hrow, Call.on_bind_ok (Call.on_ofExcept_ok row x)]
    refine Call.on_bind_error ?_
    rw [hvalid]
    rfl
  · exact ⟨_, insertOne_of_unwritable hrow x⟩

theorem prepareChanges_of_not_permits (h : ¬e.Permits m.patterns row) :
    ∃ violation, m.prepareChanges e (.obj row) = .error violation := by
  obtain hrow | ⟨violation, hrow⟩ := writable_obj e row
  · obtain ⟨violation, hvalid⟩ := exists_error (mt Entity.validateChanges_iff.mp h)
    refine ⟨violation, ?_⟩
    unfold prepareChanges
    rw [hrow]
    change (e.validateChanges m.patterns row >>= _) = _
    rw [hvalid]
    rfl
  · exact ⟨violation, prepareChanges_of_unwritable hrow⟩

theorem updateOne_of_not_permits (h : ¬e.Permits m.patterns row) (id : Json) (x : Exchange) :
    ∃ error, (m.updateOne e id (.obj row)).on x = (.error error, x) := by
  obtain ⟨violation, hviolation⟩ := prepareChanges_of_not_permits h
  exact ⟨_, updateOne_of_refused hviolation id x⟩

theorem updateWhere_of_not_permits (h : ¬e.Permits m.patterns row) (filter : FilterInput)
    (x : Exchange) : ∃ error, (m.updateWhere e filter (.obj row)).on x = (.error error, x) := by
  obtain ⟨violation, hviolation⟩ := prepareChanges_of_not_permits h
  obtain ⟨v, hrefused⟩ | ⟨fault, -, hrefused⟩ := updateWhere_of_refused hviolation filter x
  · exact ⟨_, hrefused⟩
  · exact ⟨_, hrefused⟩

theorem write_of_breaks {w : Write} (h : w.Breaks m.patterns e) (x : Exchange) :
    ∃ error, w.on m e x = ([.error error], x) := by
  unfold Write.Breaks at h
  split at h
  · obtain ⟨error, herror⟩ := insertOne_of_incomplete (m := m) h x
    exact ⟨error, congrArg Write.on.single herror⟩
  · obtain ⟨error, herror⟩ := updateOne_of_not_permits (m := m) h _ x
    exact ⟨error, congrArg Write.on.single herror⟩
  · obtain ⟨error, herror⟩ := updateWhere_of_not_permits (m := m) h _ x
    exact ⟨error, congrArg Write.on.single herror⟩
  · exact h.elim

theorem insertMany_cons (data : Json) (rows : List Json) (x : Exchange) :
    (m.insertMany e (data :: rows)).run x =
      (((m.insertOne e data).on x).1 :: ((m.insertMany e rows).run ((m.insertOne e data).on x).2).1,
        ((m.insertMany e rows).run ((m.insertOne e data).on x).2).2) := rfl

theorem insertMany_append (before after : List Json) (x : Exchange) :
    (m.insertMany e (before ++ after)).run x =
      (((m.insertMany e before).run x).1
          ++ ((m.insertMany e after).run ((m.insertMany e before).run x).2).1,
        ((m.insertMany e after).run ((m.insertMany e before).run x).2).2) := by
  induction before generalizing x with
  | nil => rfl
  | cons data rest ih =>
    rw [List.cons_append, insertMany_cons, insertMany_cons, ih]
    rfl

/-- A row that is refused is answered by its error, and the rows after it are inserted as they would
be without it. -/
theorem insertMany_of_refused {before : List Json} {data : Json} {error : DataError}
    (h : (m.insertOne e data).on ((m.insertMany e before).run x).2
      = (.error error, ((m.insertMany e before).run x).2)) (after : List Json) :
    let first := (Write.insertMany before).on m e x
    let last := (Write.insertMany after).on m e first.2
    (Write.insertMany (before ++ data :: after)).on m e x
      = (first.1 ++ .error error :: last.1, last.2) := by
  refine (insertMany_append before _ x).trans ?_
  rw [insertMany_cons, h]
  rfl

/-- Every INSERT and UPDATE of every write keeps to the rules. A write whose row breaks one fails and
leaves everything as it was, and so does that row among many; one that breaks none is sent. -/
theorem writes_keep_rules (m : Engine) (hnamed : Entity.NamedFields e.fields) :
    (∀ (w : Write) (x : Exchange), ∃ sent : List Statement,
        (w.on m e x).2.log = x.log ++ sent.map .query
          ∧ ∀ s ∈ sent, s.KeepsRules m.patterns m.dialect e)
      ∧ (∀ (w : Write) (x : Exchange), w.Breaks m.patterns e →
        ∃ error, w.on m e x = ([.error error], x))
      ∧ (∀ (before after : List Json) (row : Row) (x : Exchange),
        (Write.insertOne (.obj row)).Breaks m.patterns e → ∃ error,
          let first := (Write.insertMany before).on m e x
          let last := (Write.insertMany after).on m e first.2
          (Write.insertMany (before ++ .obj row :: after)).on m e x
            = (first.1 ++ .error error :: last.1, last.2))
      ∧ ∀ (row keyed : Row) (c : Command) (x y : Exchange), writable e (.obj row) = .ok row →
        ¬(Write.insertOne (.obj row)).Breaks m.patterns e →
        (m.withKey e (withDefaults e row)).on x = (.ok keyed, y) →
        inserting m.dialect e keyed = .ok c →
        ∃ later, ((Write.insertOne (.obj row)).on m e x).2.log
          = y.log ++ .query (c.statement m.dialect) :: later := by
  refine ⟨write_keepsRules hnamed, fun w x h => write_of_breaks h x, fun before after row x h => ?_,
    fun row keyed c x y hwritable h => insertOne_of_complete hwritable (not_not.mp h)⟩
  obtain ⟨error, herror⟩ := insertOne_of_incomplete (m := m) h ((m.insertMany e before).run x).2
  exact ⟨error, insertMany_of_refused herror after⟩

/-! ## Members -/

def members : Entity :=
  ⟨"members",
    [.primary "id" .integer, ⟨"name", .text (some 5) none (some "^[A-Z]"), true, none, false, true⟩,
      ⟨"rank", .text none none none, false, some (.str "new"), false, true⟩,
      (Field.number "age").withRange ((Double.ofInt? 0).map .finite)
        ((Double.ofInt? 150).map .finite)],
    {}, rfl⟩

theorem named_members : Entity.NamedFields members.fields := by
  constructor
  · decide
  · decide

/-- Of two rows one is sent with its default, the other is refused. -/
theorem writes_keep_rules_members :
    let m : Engine := { randomKeys := fun _ => "" }
    let ada : Write := .insertOne (.obj [("name", .str "Ada")])
    let bob : Write := .insertOne (.obj [("name", .str "bob")])
    Entity.NamedFields members.fields
      ∧ (ada.on m members {}).2.log = [.query ⟨"INSERT INTO \"members\" (\"name\", \"rank\")"
          ++ " VALUES (?, ?) RETURNING \"id\", \"name\", \"rank\", \"age\"",
          [.str "Ada", .str "new"]⟩]
      ∧ (∃ sent : List Statement, (ada.on m members {}).2.log = [] ++ sent.map .query
          ∧ ∀ s ∈ sent, s.KeepsRules m.patterns m.dialect members)
      ∧ bob.Breaks m.patterns members
      ∧ ∃ error, bob.on m members {} = ([.error error], {}) := by
  intro m ada bob
  obtain ⟨hkeeps, hbroken, -⟩ := writes_keep_rules m named_members
  have hbob : bob.Breaks m.patterns members := by
    intro hcomplete
    have hvalid := Entity.validateRow_iff.mpr hcomplete
    have hmissed : members.validateRow m.patterns (withDefaults members [("name", .str "bob")])
      = .error (.patternMissed "name") := rfl
    rw [hmissed] at hvalid
    cases hvalid
  exact ⟨named_members, rfl, hkeeps ada {}, hbob, hbroken bob {} hbob⟩

end Engine
end EntityMapper
