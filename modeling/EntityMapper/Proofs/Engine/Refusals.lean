import Mathlib
import EntityMapper.Proofs.Catalog.Consistency
import EntityMapper.Proofs.Dialect.Stored
import EntityMapper.Proofs.Engine.Plans
import EntityMapper.Proofs.Engine.Rows

/-!
# Refused queries

What a level of a query asks for is looked at before its rows are read. The levels under `with` are
only looked at when there are rows to be given related ones, so a mistake in one of them is reported
only then. A query without mistakes under `with` is refused whatever rows there are, or never.
-/

namespace EntityMapper

open Sql Stitching

variable {d : Dialect} {s : Scope}

namespace Engine

variable {m : Engine} {e : Entity} {key : Option (String × List Json)} {level : QueryLevel}
  {nested : List (String × Query)}

mutual
/-- None of the levels under `with` is refused for what it asks. The rows that a level is read for
are left out of account. -/
def WellFormed (m : Engine) (e : Entity) : List (String × Query) → Prop
  | [] => True
  | (name, q) :: rest => m.WellFormedAt e name q ∧ m.WellFormed e rest

def WellFormedAt (m : Engine) (e : Entity) (name : String) : Query → Prop
  | .node level nested => ∀ p related, m.path e name = .ok p → m.catalog.entity p.related = .ok related →
    ¬Refuses (m.levelPlan related (some (p.theirKey, [])) level nested) ∧ m.WellFormed related nested
end

/-! ## Queries that are accepted -/

/-- The rows of a junction are asked for by one of its own columns. -/
theorem accepts_fetchPairs {j : Junction} {keys : List Json}
    (hj : ∀ junction, m.catalog.entity j.entity = .ok junction →
      ∃ column f, (Scope.of junction).resolve j.ourKey = .ok (column, f)) :
    Call.Accepts (m.fetchPairs j keys) := by
  refine (Call.accepts_declared _).bind fun junction hjunction => ?_
  obtain ⟨column, f, hresolve⟩ := hj junction (Call.returns_ofExcept hjunction)
  refine (Call.accepts_lift ?_).bind fun c _ => Call.accepts_query _
  have hentry : ¬Refuses (Condition.ofEntry m.dialect (.of junction)
      (j.ourKey, [("$in", .arr keys)])) := by
    unfold Condition.ofEntry
    rw [hresolve]
    exact not_refuses_mapM fun op hop => by
      rw [List.mem_singleton.mp hop]
      exact Condition.not_refuses_membership false _
  refine not_refuses_bind (not_refuses_bind ?_ fun _ _ => not_refuses_ok _) fun _ _ => ?_
  · exact not_refuses_mapM fun entry hmem => by
      rw [List.mem_singleton.mp hmem]
      exact hentry
  · exact not_refuses_bind (not_refuses_ok none) fun _ _ => not_refuses_ok _

theorem accepts_attach {p : Path} {load : Entity → String → List Json → Call Fetched}
    (rows : List Row)
    (hpairs : ∀ j, p.junction = some j → ∀ keys, Call.Accepts (m.fetchPairs j keys))
    (hload : ∀ related, m.catalog.entity p.related = .ok related → ∀ keys,
      Call.Accepts (load related p.theirKey keys)) :
    Call.Accepts (m.attach p level load rows) := by
  refine (Call.accepts_declared _).bind fun related hrelated => ?_
  have hloads := hload related (Call.returns_ofExcept hrelated)
  dsimp only
  split
  · exact Call.accepts_pure _
  · split
    · rename_i j _ hj
      refine (hpairs j hj _).bind fun pairs _ => ?_
      exact (hloads _).bind fun fetched _ => Call.accepts_pure _
    · exact (hloads _).bind fun fetched _ => Call.accepts_pure _
    · exact (hloads _).bind fun fetched _ => Call.accepts_pure _

theorem holds_junction (hc : m.catalog.Coherent) {name : String} {p : Path} {j : Junction}
    (hp : m.path e name = .ok p) (hj : p.junction = some j) :
    m.catalog.Holds j.entity j.ourKey ∧ m.catalog.Holds j.entity j.theirKey := by
  have hkeys := (hc.leads (List.mem_of_find?_eq_some (relation?_of_path hp))).keys
  unfold Catalog.KeyedPath at hkeys
  rw [hj] at hkeys
  split at hkeys
  · rename_i hnone
    cases hnone
  · rename_i hnone
    cases hnone
  · rename_i hsome
    cases hsome
    exact ⟨hkeys.1.holds, hkeys.2.holds⟩
  · exact hkeys.elim

theorem accepts_pairs (hc : m.catalog.Coherent) (hn : m.catalog.Named) {name : String} {p : Path}
    {j : Junction} (hp : m.path e name = .ok p) (hj : p.junction = some j) (keys : List Json) :
    Call.Accepts (m.fetchPairs j keys) := by
  refine accepts_fetchPairs fun junction hjunction => ?_
  obtain ⟨⟨other, hother, f, hf, hname⟩, -⟩ := holds_junction hc hp hj
  have hfound := Catalog.entity?_of_entity hjunction
  cases hfound.symm.trans hother
  rw [← hname]
  exact ⟨_, f, Scope.resolve_of_mem (hn.fields junction (Catalog.mem_of_entity? hfound)) hf⟩

/-- All relations that are asked for are relations of the entity. -/
def Related (m : Engine) (e : Entity) (nested : List (String × Query)) : Prop :=
  ∀ entry ∈ nested, ∃ p, m.path e entry.1 = .ok p

theorem related_of_levelPlan {plan : Scope × Command × List String}
    (h : m.levelPlan e key level nested = .ok plan) : m.Related e nested := by
  obtain ⟨_, paths, _, -, -, hpaths, -⟩ := levelPlan_cases h
  intro entry hentry
  obtain ⟨p, -, hp⟩ := Result.exists_of_mem_left (Result.of_mapM hpaths) hentry
  exact ⟨p, hp⟩

mutual
theorem accepts_fetch (hc : m.catalog.Coherent) (hn : m.catalog.Named) (e : Entity)
    (key : Option (String × List Json)) : (q : Query) →
      ¬Refuses (m.levelPlan e key q.level q.nested) → m.WellFormed e q.nested →
        Call.Accepts (m.fetch e key q)
  | .node _ nested, hplan, hnested => fun _ =>
    not_refuses_fetch hplan fun _ _ _ hlevel _ y _ =>
      accepts_attachAll hc hn e nested (related_of_levelPlan hlevel) hnested _ y

theorem accepts_attachAll (hc : m.catalog.Coherent) (hn : m.catalog.Named) (e : Entity) :
    (nested : List (String × Query)) → m.Related e nested → m.WellFormed e nested →
      (rows : List Row) → Call.Accepts (m.attachAll e nested rows)
  | [], _, _, rows => by
    unfold attachAll
    exact Call.accepts_pure _
  | (name, .node level nested) :: rest, hrelated, hnested, rows => by
    obtain ⟨⟨p, hp⟩, hrestRelated⟩ := List.forall_mem_cons.mp hrelated
    obtain ⟨hfirst, hrest⟩ := hnested
    dsimp only at hp
    unfold attachAll
    rw [hp]
    refine (Call.accepts_pure p).bind fun _ hsame => ?_
    cases Call.returns_pure hsame
    refine (accepts_attach rows ?_ ?_).bind fun rows _ =>
      accepts_attachAll hc hn e rest hrestRelated hrest rows
    · exact fun j hj keys => accepts_pairs hc hn hp hj keys
    · intro related hentity keys
      obtain ⟨hplan, hdeeper⟩ := hfirst p related hp hentity
      exact accepts_fetch hc hn related (some (p.theirKey, keys)) (.node level nested)
        (fun hrefused => hplan ((follows_keys p.theirKey keys).refuses hrefused)) hdeeper
end

/-- The count asks for no more than the level whose rows it counts. -/
theorem accepts_countScoped {plan : Scope × Command × List String}
    (h : m.levelPlan e none level nested = .ok plan) :
    Call.Accepts (m.countScoped e level.filter level.join) := by
  obtain ⟨filter, _, _, hfilter, hs, -, -, -, hc⟩ := levelPlan_cases h
  obtain ⟨conditions, hconditions, -⟩ := Result.of_bind hc
  unfold countScoped convert
  rw [hfilter, hs]
  refine (Call.accepts_pure filter).bind fun _ hsame => ?_
  cases Call.returns_pure hsame
  refine (Call.accepts_lift (not_refuses_ok _)).bind fun _ hsame => ?_
  cases Call.returns_lift hsame
  refine (Call.accepts_lift ?_).bind fun c _ => ?_
  · unfold Command.counting
    rw [hconditions]
    exact not_refuses_ok _
  · exact (Call.accepts_query _).bind fun rows _ => Call.accepts_pure _

/-- What is left of a query when its rows are read is accepted. -/
theorem not_refuses_findMany {q : Query} {x : Exchange}
    (hplan : ¬Refuses (m.levelPlan e none q.level q.nested))
    (hfetch : ¬Refuses ((m.fetch e none q).on x).1) : ¬Refuses ((m.findMany e q).on x).1 := by
  obtain ⟨level, nested⟩ := q
  refine Call.not_refuses_on_bind hfetch fun fetched y hr => ?_
  dsimp only
  split
  · cases hlevel : m.levelPlan e none level nested with
    | error error =>
      rw [fetch_on, hlevel] at hr
      cases hr
    | ok plan =>
      exact (((accepts_countScoped hlevel).map some).bind fun total _ => Call.accepts_pure _) y
  · exact ((Call.accepts_pure none).bind fun total _ => Call.accepts_pure _) y

/-! ## Without rows -/

/-- The next statement is answered by no rows. -/
def NextEmpty (x : Exchange) : Prop := (Call.nextReply x).1 = .rows []

theorem run_on_empty (c : Command) {x : Exchange} (h : NextEmpty x) :
    ∃ y, (m.run c).on x = (.ok [], y) := by
  unfold NextEmpty Call.nextReply at h
  unfold run Call.query
  rcases x with ⟨_ | ⟨reply, replies⟩, log, registry, drawn⟩
  · exact ⟨_, rfl⟩
  · cases h
    exact ⟨_, rfl⟩

/-- Without rows, the levels under `with` are not looked at. -/
theorem attachAll_nil (hrelated : m.Related e nested) (x : Exchange) :
    ¬Refuses ((m.attachAll e nested []).on x).1 := by
  induction nested with
  | nil =>
    unfold attachAll
    exact not_refuses_ok _
  | cons entry rest ih =>
    obtain ⟨name, q⟩ := entry
    obtain ⟨⟨p, hp⟩, hrest⟩ := List.forall_mem_cons.mp hrelated
    dsimp only at hp
    unfold attachAll
    rw [hp, Call.on_bind_ok (Call.on_ofExcept_ok p x)]
    unfold attach
    rw [bind_assoc]
    cases hentity : m.catalog.entity p.related with
    | error fault =>
      rintro ⟨_, hrefused⟩
      cases hrefused
    | ok related =>
      rw [Call.on_bind_ok (Call.on_ofExcept_ok related x)]
      exact ih hrest

theorem not_refuses_fetch_empty {q : Query} {x : Exchange}
    (hplan : ¬Refuses (m.levelPlan e none q.level q.nested)) (hx : NextEmpty x) :
    ¬Refuses ((m.fetch e none q).on x).1 := by
  obtain ⟨level, nested⟩ := q
  refine not_refuses_fetch hplan fun s c extra hlevel rows y hrun => ?_
  obtain ⟨_, hnone⟩ := run_on_empty (m := m) c hx
  cases hrun.symm.trans hnone
  exact attachAll_nil (related_of_levelPlan hlevel) y

/-! ## Mistakes that come to light -/

/-- A value that every field that holds keys takes. -/
def anyKey : Json := .str "1"

/-- The entity has a column of this name that holds keys. -/
def HasKey (e : Entity) (n : String) : Prop :=
  ∃ f ∈ e.storedFields, f.name = n ∧ f.keyFormat.isSome = true

theorem hasKey_primary (e : Entity) : HasKey e e.primary.name := by
  refine ⟨e.primary, e.primary_stored, rfl, ?_⟩
  rw [Catalog.keyFormat_primary]
  rfl

theorem hasKey_of_references {c : Catalog} {entity column target key : String}
    (h : c.References entity column target key) (he : c.entity? entity = some e) :
    HasKey e column := by
  obtain ⟨e', _, f, fk, he', -, hf, hkind, -⟩ := h
  cases he.symm.trans he'
  obtain ⟨hfound, hstored⟩ := Option.filter_eq_some_iff.mp hf
  refine ⟨f, List.mem_filter.mpr ⟨List.mem_of_find?_eq_some hfound, hstored⟩, ?_, ?_⟩
  · simpa using List.find?_some hfound
  · rw [Field.keyFormat, hkind]
    rfl

theorem hasKey_of_target {c : Catalog} {entity column target key : String}
    (h : c.References entity column target key) (he : c.entity? target = some e) : HasKey e key := by
  obtain ⟨_, t, _, _, -, ht, -, -, -, -, hname, -⟩ := h
  cases he.symm.trans ht
  rw [← hname]
  exact hasKey_primary e

/-- Each column by which rows are stitched holds keys. -/
theorem hasKey_path {p : Path} {related : Entity} (h : m.catalog.Leads e.name p)
    (he : m.catalog.entity? e.name = some e) (hrelated : m.catalog.entity p.related = .ok related) :
    HasKey e p.ourKey ∧ HasKey related p.theirKey ∧ ∀ j junction, p.junction = some j →
      m.catalog.entity j.entity = .ok junction → HasKey junction j.ourKey := by
  have hkeys := h.keys
  have hfound := Catalog.entity?_of_entity hrelated
  unfold Catalog.KeyedPath at hkeys
  split at hkeys
  · rename_i hnone
    exact ⟨hasKey_of_references hkeys he, hasKey_of_target hkeys hfound, by simp [hnone]⟩
  · rename_i hnone
    exact ⟨hasKey_of_target hkeys he, hasKey_of_references hkeys hfound, by simp [hnone]⟩
  · rename_i j _ hj
    refine ⟨hasKey_of_target hkeys.1 he, hasKey_of_target hkeys.2 hfound, ?_⟩
    rintro _ junction hj' hjunction
    cases hj.symm.trans hj'
    exact hasKey_of_references hkeys.1 (Catalog.entity?_of_entity hjunction)
  · exact hkeys.elim

theorem kind_of_key {f : Field} (h : f.keyFormat.isSome = true) :
    (∃ format handler, f.kind = .primary format handler) ∨ ∃ key, f.kind = .relation key := by
  unfold Field.keyFormat at h
  split at h
  · rename_i format handler hkind
    exact .inl ⟨format, handler, hkind⟩
  · rename_i key hkind
    exact .inr ⟨key, hkind⟩
  · cases h

theorem encode_anyKey (d : Dialect) {f : Field} (h : f.keyFormat.isSome = true) :
    ∃ w, d.encode f anyKey = .ok w := by
  have hcheck (format : KeyFormat) : ∃ w, f.checkKey format anyKey = .ok w := by
    cases format
    · exact ⟨.int 1, rfl⟩
    · exact ⟨anyKey, rfl⟩
    · exact ⟨anyKey, rfl⟩
  refine (d.encode_ok_iff f anyKey).mpr ?_
  change ∃ w, f.checkPresent anyKey = .ok w
  unfold Field.checkPresent
  obtain ⟨format, _, hkind⟩ | ⟨key, hkind⟩ := kind_of_key h
  · rw [hkind]
    exact hcheck format
  · rw [hkind]
    exact hcheck key.format

theorem decode_anyKey (d : Dialect) {f : Field} (h : f.keyFormat.isSome = true) :
    d.decode f anyKey = anyKey := by
  unfold Dialect.decode
  obtain ⟨_, _, hkind⟩ | ⟨_, hkind⟩ := kind_of_key h <;> rw [hkind]

theorem ofOperator_anyKey (c : Column) {f : Field} (h : f.keyFormat.isSome = true) :
    ∃ cond, Condition.ofOperator d c f "$in" (.arr [anyKey]) = .ok cond := by
  obtain ⟨w, hencode⟩ := encode_anyKey d h
  refine ⟨.member c false [⟨w, some f⟩], ?_⟩
  change (Condition.operand d f anyKey >>= _) >>= _ = _
  unfold Condition.operand
  rw [hencode]
  rfl

/-- What a level looks at does not become better by a key to restrict it by. -/
theorem refuses_anyKey {column : String} (hnamed : Entity.NamedFields e.fields)
    (hkey : HasKey e column)
    (h : Refuses (m.levelPlan e (some (column, [])) level nested)) :
    Refuses (m.levelPlan e (some (column, [anyKey])) level nested) := by
  refine (follows_levelPlan fun s c f hs hresolve => ?_).refuses h
  obtain ⟨g, hg, rfl, hformat⟩ := hkey
  have hentity := (joined_scope hs).entity
  rw [← hentity] at hnamed hg
  cases hresolve.symm.trans (Scope.resolve_of_mem hnamed hg)
  obtain ⟨cond, hcond⟩ := ofOperator_anyKey (d := m.dialect) (s.column f.name) hformat
  rw [hcond]
  exact follows_of_not_refuses (Condition.not_refuses_in []) cond

/-- A row that holds a key holds it when it is decoded, unless a relation is joined under the name of
its column. -/
theorem get?_decodeRow_anyKey {joins : List String} {n : String}
    (hnamed : Entity.NamedFields e.fields) (hkey : HasKey e n) (hs : m.scope e joins = .ok s)
    (hn : n ∉ joins) :
    Dict.get? (decodeRow m.dialect s [(n, anyKey)]) n = some anyKey := by
  obtain ⟨f, hf, rfl, hformat⟩ := hkey
  obtain ⟨hmem, -⟩ := List.mem_filter.mp hf
  have hjoined := joined_scope hs
  have hnone : s.joins.reverse.find? (·.path.name == f.name) = none := by
    rw [List.find?_eq_none]
    intro j hj hname
    refine hn ((hjoined.names f.name).mp ?_)
    rw [← beq_iff_eq.mp hname]
    exact List.mem_map_of_mem (List.mem_reverse.mp hj)
  have hmain : Dict.get? (mainColumns m.dialect s [(f.name, anyKey)]) f.name = some anyKey := by
    rw [get?_mainColumns (hnamed.identifiers f hmem), Dict.get?_cons, if_pos rfl, Option.map_some,
      decodeColumn, hjoined.entity, hnamed.field?_eq hmem]
    exact congrArg some (decode_anyKey m.dialect hformat)
  rw [get?_decodeRow, hnone, hmain]
  rfl

theorem fetchPairs_on_empty {j : Junction} {junction : Entity}
    (hjunction : m.catalog.entity j.entity = .ok junction)
    (hnamed : Entity.NamedFields junction.fields) (hkey : HasKey junction j.ourKey) {x : Exchange}
    (hx : NextEmpty x) : ∃ y, (m.fetchPairs j [anyKey]).on x = (.ok [], y) := by
  obtain ⟨f, hf, hname, hformat⟩ := hkey
  have hresolve := Scope.resolve_of_mem (s := .of junction) hnamed hf
  rw [hname] at hresolve
  obtain ⟨cond, hcond⟩ := ofOperator_anyKey (d := m.dialect) _ hformat
  unfold fetchPairs
  rw [hjunction, Call.on_bind_ok (Call.on_ofExcept_ok junction x)]
  unfold Command.selectingMembers Command.selecting
  rw [Condition.ofFilter_put_nil hresolve hcond]
  exact run_on_empty _ hx

/-- Rows with a key have their related rows loaded, and if that is refused, so is giving them. -/
theorem refuses_attach {p : Path} {related : Entity}
    {load : Entity → String → List Json → Call Fetched} {row : Row} {x : Exchange}
    (hrow : Dict.get? row p.ourKey = some anyKey)
    (hrelated : m.catalog.entity p.related = .ok related)
    (hpairs : ∀ j, p.junction = some j → ∃ y, (m.fetchPairs j [anyKey]).on x = (.ok [], y))
    (hload : ∀ keys, keys = [] ∨ keys = [anyKey] →
      ∀ y, Refuses ((load related p.theirKey keys).on y).1) :
    Refuses ((m.attach p level load [row]).on x).1 := by
  have hkeys : distinctKeys (columnValues p.ourKey [row]) = [anyKey] := by
    have hvalues : columnValues p.ourKey [row] = [anyKey] := by simp [columnValues, hrow]
    rw [hvalues]
    rfl
  have hrefused (keys : List Json) (h : keys = [] ∨ keys = [anyKey]) (y : Exchange)
      (stitch : Fetched → List Row) :
      Refuses ((do return stitch (← load related p.theirKey keys) : Call (List Row)).on y).1 :=
    Call.refuses_on_bind (hload keys h y)
  unfold attach
  rw [hrelated, Call.on_bind_ok (Call.on_ofExcept_ok related x)]
  dsimp only
  rw [hkeys]
  dsimp only [List.isEmpty]
  rw [if_neg (by simp)]
  split
  · rename_i j _ hj
    obtain ⟨y, hy⟩ := hpairs j hj
    rw [Call.on_bind_ok hy]
    exact hrefused [] (.inl rfl) y _
  · exact hrefused _ (.inr rfl) x _
  · exact hrefused _ (.inr rfl) x _

/-- A mistake in the first of the relations under `with` is reported once there is a row with a key,
unless another relation is joined under the name of the key's column. -/
theorem refuses_findMany_of_first (hc : m.catalog.Coherent) (hn : m.catalog.Named)
    (he : m.catalog.entity? e.name = some e) {name : String} {q : Query}
    {rest : List (String × Query)} {plan : Scope × Command × List String} {p : Path}
    {related : Entity} (hplan : m.levelPlan e none level ((name, q) :: rest) = .ok plan)
    (hp : m.path e name = .ok p) (hrelated : m.catalog.entity p.related = .ok related)
    (hmistake : Refuses (m.levelPlan related (some (p.theirKey, [])) q.level q.nested))
    (hjoins : p.ourKey ∉ level.join) :
    Refuses ((m.findMany e (.node level ((name, q) :: rest))).on
      { replies := [.rows [[(p.ourKey, anyKey)]]] }).1 := by
  have hleads := hc.leads (List.mem_of_find?_eq_some (relation?_of_path hp))
  obtain ⟨hours, htheirs, hjunction⟩ := hasKey_path hleads he hrelated
  have hnamed := hn.fields e (Catalog.mem_of_entity? he)
  have hnamedRelated := hn.fields related (Catalog.mem_of_entity? (Catalog.entity?_of_entity hrelated))
  obtain ⟨s, c, extra⟩ := plan
  obtain ⟨_, _, _, -, hs, -⟩ := levelPlan_cases hplan
  have hrow := get?_decodeRow_anyKey hnamed hours hs hjoins
  have hload : ∀ keys, keys = [] ∨ keys = [anyKey] →
      ∀ y, Refuses ((m.fetch related (some (p.theirKey, keys)) q).on y).1 := by
    intro keys hkeys y
    obtain ⟨level, nested⟩ := q
    have hrefused : Refuses (m.levelPlan related (some (p.theirKey, keys)) level nested) := by
      obtain rfl | rfl := hkeys
      · exact hmistake
      · exact refuses_anyKey hnamedRelated htheirs hmistake
    obtain ⟨fault, hfault⟩ := hrefused
    rw [fetch_on, hfault]
    exact ⟨fault, rfl⟩
  have hpairs : ∀ j, p.junction = some j → ∀ x, NextEmpty x →
      ∃ y, (m.fetchPairs j [anyKey]).on x = (.ok [], y) := by
    intro j hj x hx
    obtain ⟨⟨junction, hfound, -⟩, -⟩ := holds_junction hc hp hj
    have hentity : m.catalog.entity j.entity = .ok junction := by
      unfold Catalog.entity
      rw [hfound]
    exact fetchPairs_on_empty hentity (hn.fields junction (Catalog.mem_of_entity? hfound))
      (hjunction j junction hj hentity) hx
  have hread : (m.run c).on { replies := [.rows [[(p.ourKey, anyKey)]]] }
      = (.ok [[(p.ourKey, anyKey)]], { log := [.query (c.statement m.dialect)] }) := rfl
  refine Call.refuses_on_bind ?_
  rw [fetch_on, hplan]
  dsimp only
  rw [Call.on_bind_ok hread]
  refine Call.refuses_on_bind ?_
  unfold attachAll
  rw [hp, Call.on_bind_ok (Call.on_ofExcept_ok p _)]
  exact Call.refuses_on_bind (refuses_attach hrow hrelated (fun j hj => hpairs j hj _ rfl) hload)

/-! ## Main statement -/

/-- A mistake of the uppermost level is reported whatever comes back, before anything is sent; without
one, a query is not refused when there are no rows. So whether it is refused does not depend on the
rows exactly when there is such a mistake, or no rows bring another one to light. None do where the
levels under `with` are well formed. Some do where the first of these is not, unless another relation
is joined under the name of the column by which its rows are found. -/
theorem findMany_refusals (hm : m.catalog.Reachable) (hdeclared : ∀ d ∈ m.catalog.declared, d.Declared)
    (he : m.catalog.entity? e.name = some e) (q : Query) :
    (∀ fault, m.levelPlan e none q.level q.nested = .error (.query fault) →
        ∀ x, (m.findMany e q).on x = (.error (.query fault), x))
      ∧ (¬Refuses (m.levelPlan e none q.level q.nested) → ∀ x, NextEmpty x →
        ¬Refuses ((m.findMany e q).on x).1)
      ∧ ((∀ x y, Refuses ((m.findMany e q).on x).1 ↔ Refuses ((m.findMany e q).on y).1)
        ↔ Refuses (m.levelPlan e none q.level q.nested)
          ∨ ∀ x, ¬Refuses ((m.findMany e q).on x).1)
      ∧ (¬Refuses (m.levelPlan e none q.level q.nested) → m.WellFormed e q.nested →
        ∀ x, ¬Refuses ((m.findMany e q).on x).1)
      ∧ ∀ name q' rest plan p related, q.nested = (name, q') :: rest →
        m.levelPlan e none q.level q.nested = .ok plan → m.path e name = .ok p →
        m.catalog.entity p.related = .ok related → p.ourKey ∉ q.level.join →
        Refuses (m.levelPlan related (some (p.theirKey, [])) q'.level q'.nested) →
        ∃ rows, Refuses ((m.findMany e q).on { replies := [.rows rows] }).1 := by
  obtain ⟨level, nested⟩ := q
  have hrefused : ∀ fault, m.levelPlan e none level nested = .error (.query fault) →
      ∀ x, (m.findMany e (.node level nested)).on x = (.error (.query fault), x) := by
    intro fault hplan x
    refine Call.on_bind_error ?_
    rw [fetch_on, hplan]
  have hempty : ¬Refuses (m.levelPlan e none level nested) → ∀ x, NextEmpty x →
      ¬Refuses ((m.findMany e (.node level nested)).on x).1 :=
    fun hplan x hx => not_refuses_findMany hplan (not_refuses_fetch_empty hplan hx)
  refine ⟨hrefused, hempty, ⟨fun h => ?_, fun h x y => ?_⟩, fun hplan hnested x => ?_, ?_⟩
  · by_cases hplan : Refuses (m.levelPlan e none level nested)
    · exact .inl hplan
    · exact .inr fun x hx => hempty hplan {} rfl ((h x {}).mp hx)
  · obtain ⟨fault, hplan⟩ | hnever := h
    · rw [hrefused fault hplan x, hrefused fault hplan y]
    · exact iff_of_false (hnever x) (hnever y)
  · exact not_refuses_findMany hplan
      (accepts_fetch hm.coherent (hm.named hdeclared) e none (.node level nested) hplan hnested x)
  · rintro name q' rest plan p related hnested hplan hp hrelated hjoins hmistake
    dsimp only [Query.level, Query.nested] at hnested hplan hjoins
    subst hnested
    exact ⟨_, refuses_findMany_of_first hm.coherent (hm.named hdeclared) he hplan hp hrelated
      hmistake hjoins⟩

/-- A level that asks for a column that neither posts nor authors have. -/
def misspelt : QueryLevel := { limit := 10, filter := [("nope", some (.int 1))] }

/-- Of posts a misspelt column is noticed at once; of their authors, when there is a post with one. -/
theorem findMany_refusals_library :
    let m : Engine := { catalog := Catalog.library, randomKeys := fun _ => "", softscans := false }
    m.catalog.Reachable ∧ (∀ d ∈ m.catalog.declared, d.Declared)
      ∧ m.catalog.entity? Catalog.authoredPosts.name = some Catalog.authoredPosts
      ∧ (∀ x, (m.findMany Catalog.authoredPosts (.node misspelt [])).on x
        = (.error (.query (.unknownField "posts" "nope")), x))
      ∧ ∃ rows, Refuses ((m.findMany Catalog.authoredPosts
        (.node { limit := 10 } [("author", .node misspelt [])])).on { replies := [.rows rows] }).1 := by
  intro m
  have hm : m.catalog.Reachable := Catalog.reachable_library
  have he : m.catalog.entity? Catalog.authoredPosts.name = some Catalog.authoredPosts := rfl
  obtain ⟨hfirst, -⟩ := findMany_refusals hm Catalog.declared_library he (.node misspelt [])
  obtain ⟨-, -, -, -, hnested⟩ := findMany_refusals hm Catalog.declared_library he
    (.node { limit := 10 } [("author", .node misspelt [])])
  refine ⟨hm, Catalog.declared_library, he, hfirst _ rfl, ?_⟩
  exact hnested "author" (.node misspelt []) [] _ _ Catalog.authors rfl rfl rfl rfl (by decide)
    ⟨.unknownField "authors" "nope", rfl⟩

/-- The same query is answered where there are no posts, and refused where there is one. -/
theorem misspelt_authors_need_a_post :
    let m : Engine := { catalog := Catalog.library, randomKeys := fun _ => "", softscans := false }
    let q : Query := .node { limit := 10 } [("author", .node misspelt [])]
    let posted : Exchange := { replies := [.rows [[("author_id", .int 3), ("id", .int 1)]]] }
    m.catalog.Reachable
      ∧ ((m.findMany Catalog.authoredPosts q).on {}).1.map (·.data.length) = .ok 0
      ∧ ((m.findMany Catalog.authoredPosts q).on posted).1
        = .error (.query (.unknownField "authors" "nope")) := by
  refine ⟨Catalog.reachable_library, rfl, ?_⟩
  with_unfolding_all rfl

end Engine
end EntityMapper
