import EntityMapper.Proofs.Catalog.Names
import EntityMapper.Proofs.Engine.Levels
import EntityMapper.Proofs.Sql.Condition
import EntityMapper.Proofs.Sql.Text

/-!
# The names that queries send

Whatever a query asks for, the statements sent for it only mention names of the catalog: each way from
the query into the text looks its names up first.
-/

namespace EntityMapper

open Sql

/-! ## Scopes -/

/-- The scope is over registered entities and the ways between them. -/
structure Sql.Scope.Known (c : Catalog) (s : Scope) : Prop where
  entity : c.entity? s.entity.name = some s.entity
  joins : ∀ j ∈ s.joins, c.KnownPath j.path ∧ c.entity? j.entity.name = some j.entity

variable {c : Catalog} {s : Scope} {e : Entity}

namespace Sql.Scope

theorem known_of (he : c.entity? e.name = some e) : (Scope.of e).Known c := ⟨he, by simp [Scope.of]⟩

theorem Known.named (h : s.Known c) : s.Named c.KnownName where
  main := .main
  entity := .entity h.entity
  joins j hj := by
    obtain ⟨hpath, hentity⟩ := h.joins j hj
    exact ⟨.entity hentity, .relation hpath.name, .field hpath.ourKey, .field hpath.theirKey⟩
  columns j hj f hf := by
    obtain ⟨hpath, hentity⟩ := h.joins j hj
    have hfield := Catalog.fieldName_of_stores hentity (Entity.stores_visible hf)
    exact ⟨.field hfield, .joined hpath.name hfield⟩

theorem fieldName_of_storedField (he : c.entity? e.name = some e) {name : String} {f : Field}
    (h : storedField e name = .ok f) : c.FieldName name := by
  unfold storedField at h
  split at h
  · rename_i found hfound
    exact Catalog.fieldName_of_stores he (Entity.stores_of_storedField? hfound)
  · cases h

/-- A key that resolves names a known column, whoever wrote the key. -/
theorem Known.resolve (hs : s.Known c) {key : String} {col : Column} {f : Field}
    (h : s.resolve key = .ok (col, f)) : col.Named c.KnownName := by
  unfold Scope.resolve at h
  split at h
  · obtain ⟨f, hf, h⟩ := Result.of_bind h
    cases h
    exact hs.named.column (.field (fieldName_of_storedField hs.entity hf))
  · rename_i relation name _
    split at h
    · cases h
    · rename_i j hj
      obtain ⟨f, hf, h⟩ := Result.of_bind h
      cases h
      obtain ⟨hpath, hentity⟩ := hs.joins j (List.mem_of_find?_eq_some hj)
      have hrelation : j.path.name = relation := by simpa using List.find?_some hj
      refine ⟨?_, .field (fieldName_of_storedField hentity hf)⟩
      rintro _ ⟨⟩
      rw [← hrelation]
      exact .relation hpath.name

end Sql.Scope

/-! ## Commands -/

namespace Sql.Command

variable {d : Dialect} {filter : Filter} {conditions : List Condition} {cmd : Command}

theorem named_conditions (hs : s.Known c) (h : Condition.ofFilter d s filter = .ok conditions) :
    ∀ cond ∈ conditions, cond.Named c.KnownName := by
  intro cond hcond
  obtain ⟨p, -, col, f, hresolve, hop⟩ :=
    Result.exists_of_mem_right (Condition.ofFilter_predicates h) hcond
  intro other hother
  rw [(Condition.parts_of_ofOperator hop).1 other hother]
  exact hs.resolve hresolve

theorem named_selecting (hs : s.Known c) {columns : List String}
    (hcolumns : ∀ n ∈ columns, c.KnownName n) {order : Option (String × SortDirection)}
    {page : Option (Nat × Nat)} (h : selecting d s columns filter order page = .ok cmd) :
    cmd.Named c.KnownName := by
  obtain ⟨conditions, hconditions, h⟩ := Result.of_bind h
  obtain ⟨resolved, hresolved, h⟩ := Result.of_bind h
  cases h
  refine ⟨hs.named, hcolumns, named_conditions hs hconditions, ?_⟩
  rintro o rfl
  unfold orderColumn at hresolved
  split at hresolved
  · cases hresolved
  · split at hresolved
    · cases hresolved
    · rename_i col f hcol
      cases hresolved
      exact hs.resolve hcol

theorem named_counting (hs : s.Known c) (h : counting d s filter = .ok cmd) :
    cmd.Named c.KnownName := by
  obtain ⟨conditions, hconditions, h⟩ := Result.of_bind h
  cases h
  exact ⟨.count, hs.named, named_conditions hs hconditions⟩

end Sql.Command

/-! ## Levels -/

namespace Engine

variable {m : Engine}

theorem knownPath_of_path (hm : m.catalog.Sound) {name : String} {p : Path}
    (h : m.path e name = .ok p) : m.catalog.KnownPath p := hm.knownPath (relation?_of_path h)

theorem registered_of_entity {name : String} (h : c.entity name = .ok e) :
    c.entity? e.name = some e := by
  have hfound := Catalog.entity?_of_entity h
  rwa [Catalog.name_of_entity? hfound]

theorem known_joinRelation (hm : m.catalog.Sound) {s s' : Scope} {name : String}
    (hs : s.Known m.catalog) (h : m.joinRelation e s name = .ok s') : s'.Known m.catalog := by
  obtain ⟨p, related, hp, hrelated, -, ⟨-, rfl⟩ | ⟨-, rfl⟩⟩ := joinRelation_cases h
  · exact hs
  · refine ⟨hs.entity, fun j hj => ?_⟩
    rcases List.mem_append.mp hj with hj | hj
    · exact hs.joins j hj
    · obtain rfl := List.mem_singleton.mp hj
      exact ⟨knownPath_of_path hm hp, registered_of_entity hrelated⟩

theorem known_scope (hm : m.catalog.Sound) (he : m.catalog.entity? e.name = some e)
    {joins : List String} (h : m.scope e joins = .ok s) : s.Known m.catalog :=
  Result.of_foldlM h (Scope.known_of he) fun _ _ _ _ hs hstep => known_joinRelation hm hs hstep

theorem fieldName_of_columns (he : c.entity? e.name = some e) {select names : List String}
    (h : columns e select = .ok names) : ∀ n ∈ names, c.FieldName n := by
  unfold columns at h
  split at h
  · cases h
    intro n hn
    obtain ⟨f, hf, rfl⟩ := List.mem_map.mp hn
    exact Catalog.fieldName_of_stores he (Entity.stores_visible hf)
  · intro n hn
    obtain ⟨name, -, hname⟩ := Result.exists_of_mem_right (Result.of_mapM h) hn
    obtain ⟨f, hf, hsame⟩ := Result.of_bind hname
    cases hsame
    exact Scope.fieldName_of_storedField he hf

theorem mem_missing {selected needed : List String} {n : String} :
    n ∈ missing selected needed ↔ n ∈ needed ∧ n ∉ selected := by
  induction needed generalizing selected with
  | nil => simp [missing]
  | cons first rest ih =>
    unfold missing
    split
    · rename_i hthere
      rw [List.contains_iff_mem] at hthere
      rw [ih, List.mem_cons]
      constructor
      · exact fun ⟨hrest, hn⟩ => ⟨.inr hrest, hn⟩
      · rintro ⟨rfl | hrest, hn⟩
        · exact absurd hthere hn
        · exact ⟨hrest, hn⟩
    · rename_i hnew
      rw [List.contains_iff_mem] at hnew
      rw [List.mem_cons, ih, List.mem_cons, List.mem_append, List.mem_singleton, not_or]
      constructor
      · rintro (rfl | ⟨hrest, hn, -⟩)
        · exact ⟨.inl rfl, hnew⟩
        · exact ⟨.inr hrest, hn⟩
      · rintro ⟨rfl | hrest, hn⟩
        · exact .inl rfl
        · by_cases hfirst : n = first
          · exact .inl hfirst
          · exact .inr ⟨hrest, hn, hfirst⟩

theorem named_levelCommand {columns : List String} {filter : Filter} {level : QueryLevel}
    {key : Option (String × List Json)} {cmd : Command} (hs : s.Known m.catalog)
    (hcolumns : ∀ n ∈ columns, m.catalog.KnownName n)
    (h : m.levelCommand s columns filter level key = .ok cmd) : cmd.Named m.catalog.KnownName := by
  unfold levelCommand at h
  split at h <;> exact Command.named_selecting hs hcolumns h

/-- The key columns that a level needs are stored fields, and so are those that it selects. -/
theorem fieldName_of_level (hm : m.catalog.Sound) (he : m.catalog.entity? e.name = some e)
    {key : Option (String × List Json)} (hkey : ∀ k, key = some k → m.catalog.FieldName k.1)
    {nested : List (String × Query)} {paths : List Path} {select selected : List String} {n : String}
    (hpaths : nested.mapM (fun entry => m.path e entry.1) = .ok paths)
    (hselected : columns e select = .ok selected)
    (hn : n ∈ selected ++ missing selected (neededKeys e key paths)) : m.catalog.FieldName n := by
  rcases List.mem_append.mp hn with hn | hn
  · exact fieldName_of_columns he hselected n hn
  · rcases List.mem_cons.mp (mem_missing.mp hn).1 with rfl | hn
    · exact Catalog.fieldName_of_stores he e.stores_primary
    · rcases List.mem_append.mp hn with hn | hn
      · obtain ⟨k, hk, rfl⟩ := List.mem_map.mp (by simpa using hn : n ∈ key.toList.map Prod.fst)
        exact hkey k (by simpa using hk)
      · obtain ⟨p, hp, rfl⟩ := List.mem_map.mp hn
        obtain ⟨entry, -, hentry⟩ := Result.exists_of_mem_right (Result.of_mapM hpaths) hp
        exact (knownPath_of_path hm hentry).ourKey

/-- The command of a level reads the columns that the query selects, and those that stitching needs. -/
theorem named_level (hm : m.catalog.Sound) (he : m.catalog.entity? e.name = some e)
    {key : Option (String × List Json)} (hkey : ∀ k, key = some k → m.catalog.FieldName k.1)
    {level : QueryLevel} {nested : List (String × Query)} {cmd : Command}
    (h : m.LevelCommand e key level nested cmd) : cmd.Named m.catalog.KnownName := by
  obtain ⟨filter, s, paths, selected, -, hs, hpaths, hselected, hcmd⟩ := h
  refine named_levelCommand (known_scope hm he hs) (fun n hn => ?_) hcmd
  exact .field (fieldName_of_level hm he hkey hpaths hselected hn)

theorem named_pairs {j : Junction}
    (hj : m.catalog.FieldName j.ourKey ∧ m.catalog.FieldName j.theirKey) {keys : List Json}
    {cmd : Command} (h : m.PairsCommand j keys cmd) : cmd.Named m.catalog.KnownName := by
  obtain ⟨junction, hjunction, hcmd⟩ := h
  refine Command.named_selecting (Scope.known_of (registered_of_entity hjunction)) ?_ hcmd
  simp only [List.mem_cons, List.not_mem_nil, or_false, forall_eq_or_imp, forall_eq]
  exact ⟨.field hj.1, .field hj.2⟩

/-! ## Queries -/

/-- The text is made of the fixed words, placeholders, numbers and known names. -/
def Known (m : Engine) (s : Statement) : Prop := Tokens m.dialect m.catalog.KnownName s.sql

/-- A level is over a registered entity, restricted by a stored field if at all. -/
def Registered (m : Engine) (e : Entity) (key : Option (String × List Json)) : Prop :=
  m.catalog.entity? e.name = some e ∧ ∀ k, key = some k → m.catalog.FieldName k.1

theorem keeps_known (hm : m.catalog.Sound) : m.Keeps m.Known m.Registered where
  level hgood h := Command.tokens (named_level hm hgood.1 hgood.2 h)
  pairs hgood hp hj h :=
    Command.tokens (named_pairs ((knownPath_of_path hm hp).junction _ hj) h)
  step hgood hp hrelated keys := by
    refine ⟨registered_of_entity hrelated, ?_⟩
    rintro _ ⟨⟩
    exact (knownPath_of_path hm hp).theirKey

theorem sends_countScoped (hm : m.catalog.Sound) (he : m.catalog.entity? e.name = some e)
    (filter : FilterInput) (joins : List String) :
    Call.Sends m.Known (m.countScoped e filter joins) := by
  refine (Call.sends_ofExcept _).bind fun f _ => ?_
  refine (Call.sends_lift _).bind fun s hs => ?_
  refine (Call.sends_lift _).bind fun cmd hcmd => ?_
  have hnamed := Command.named_counting (known_scope hm he (Call.returns_lift hs))
    (Call.returns_lift hcmd)
  exact (Call.sends_query (Command.tokens hnamed)).bind fun rows _ => Call.sends_pure _

theorem sends_findMany (hm : m.catalog.Sound) (he : m.catalog.entity? e.name = some e) (q : Query) :
    Call.Sends m.Known (m.findMany e q) := by
  refine ((keeps_known hm).sends_fetch ⟨he, by simp⟩ q).bind fun fetched _ => ?_
  dsimp only
  split
  · exact ((sends_countScoped hm he _ _).map _).bind fun total _ => Call.sends_pure _
  · exact (Call.sends_pure _).bind fun total _ => Call.sends_pure _

/-- Over every catalog that declarations lead to, every document and all replies of the database: the
text of each statement that is sent consists of the fixed words, placeholders, limits and offsets, and
known names in quotes. -/
theorem findJson_sends_known_names (hm : m.catalog.Reachable) {name : String}
    (he : m.catalog.entity? name = some e) (doc : Json) (x : Exchange) :
    ∃ sent : List Statement, ((m.findJson e doc).on x).2.log = x.log ++ sent.map .query
      ∧ ∀ s ∈ sent, Tokens m.dialect m.catalog.KnownName s.sql := by
  have hregistered : m.catalog.entity? e.name = some e := by
    rwa [Catalog.name_of_entity? he]
  have hsends : Call.Sends m.Known (m.findJson e doc) :=
    (Call.sends_ofExcept _).bind fun q _ => sends_findMany hm.sound hregistered q
  exact hsends x

theorem findJson_sends_known_names_library :
    let m : Engine := { catalog := Catalog.library, randomKeys := fun _ => "" }
    let doc : Json := .obj [("sort", .str "name\"; DROP TABLE posts"),
      ("where", .obj [("name", .str "\" OR \"1\" = \"1")]),
      ("with", .obj [("posts", .obj [])])]
    let x : Exchange := { replies := [.rows [[("id", .int 1), ("name", .str "Ada")]]] }
    m.catalog.Reachable ∧ m.catalog.entity? "authors" = some Catalog.authors
      ∧ ((m.findJson Catalog.authors doc).on x).2.log.length = 3
      ∧ ∃ sent : List Statement,
        ((m.findJson Catalog.authors doc).on x).2.log = x.log ++ sent.map .query
          ∧ ∀ s ∈ sent, Tokens m.dialect m.catalog.KnownName s.sql := by
  intro m doc x
  have hm : m.catalog.Reachable := Catalog.reachable_library
  have he : m.catalog.entity? "authors" = some Catalog.authors := rfl
  exact ⟨hm, he, by decide +kernel, findJson_sends_known_names hm he doc x⟩

end Engine
end EntityMapper
