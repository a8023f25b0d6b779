import EntityMapper.Proofs.Engine.Objects

/-!
# The members of the objects of an answer

Over a database that gives each SELECT the columns it asks for, an object has the columns that its level
selects and the relations that it asks for, but for relations that are named like a column which the
level needs to stitch relations to its rows: such a column is taken out again, and the relation with it.
-/

namespace EntityMapper.Engine

open Sql Stitching

variable {m : Engine} {e : Entity} {name n : String} {level : QueryLevel}
  {nested : List (String × Query)}

/-- The level needs the column to stitch relations to its rows, whether or not it selects it. -/
def KeyColumn (m : Engine) (e : Entity) (key : Option String) (nested : List (String × Query))
    (n : String) : Prop :=
  n = e.primary.name ∨ key = some n
    ∨ ∃ entry ∈ nested, ∃ p, m.path e entry.1 = .ok p ∧ p.ourKey = n

/-- A row has the columns that its level selects and the relations that the level asks for, unless a
relation has the name of a key column. A joined row has the visible columns. -/
def exactMembers (m : Engine) : ObjectProperty where
  row e key level nested members := ∀ n, Dict.contains members n = true
    ↔ SelectsColumn e level n
      ∨ (n ∈ level.join ∨ n ∈ nested.map Prod.fst) ∧ ¬m.KeyColumn e key nested n
  joined e members := ∀ n, Dict.contains members n = true ↔ e.Shows n

theorem mem_neededKeys {key : Option (String × List Json)} {paths : List Path}
    (h : nested.mapM (fun entry => m.path e entry.1) = .ok paths) :
    n ∈ neededKeys e key paths ↔ m.KeyColumn e (key.map Prod.fst) nested n := by
  have hpaths := Result.of_mapM h
  have hours : n ∈ paths.map (·.ourKey)
      ↔ ∃ entry ∈ nested, ∃ p, m.path e entry.1 = .ok p ∧ p.ourKey = n := by
    rw [List.mem_map]
    constructor
    · rintro ⟨p, hp, rfl⟩
      obtain ⟨entry, hentry, hpath⟩ := Result.exists_of_mem_right hpaths hp
      exact ⟨entry, hentry, p, hpath, rfl⟩
    · rintro ⟨entry, hentry, p, hpath, rfl⟩
      obtain ⟨found, hfound, hsame⟩ := Result.exists_of_mem_left hpaths hentry
      obtain rfl : p = found := Except.ok.inj (hpath.symm.trans hsame)
      exact ⟨p, hfound, rfl⟩
  unfold neededKeys KeyColumn
  rw [List.mem_cons, List.mem_append, hours, Option.mem_toList]

/-! ## Relations one after the other -/

/-- A row was given what all its relations lead to. -/
structure Attached (m : Engine) (P : ObjectProperty) (e : Entity) (nested : List (String × Query))
    (row row' : Row) : Prop where
  keys : ∀ n, Dict.contains row' n = true ↔ Dict.contains row n = true ∨ n ∈ nested.map Prod.fst
  others : ∀ n, n ∉ nested.map Prod.fst → row'.get? n = row.get? n
  related : m.RelatedHas P e nested row'

variable {P : ObjectProperty} {row mid row' : Row}

theorem attached_nil (row : Row) : m.Attached P e [] row row :=
  ⟨by simp, fun _ _ => rfl, trivial⟩

theorem Attached.cons {q : Query} {rest : List (String × Query)} {p : Path} {related : Entity}
    (hp : m.path e name = .ok p) (hrelated : m.catalog.entity p.related = .ok related)
    (hgiven : Given p (m.RowHas P related (some p.theirKey) q) row mid)
    (h : m.Attached P e rest mid row') : m.Attached P e ((name, q) :: rest) row row' := by
  obtain ⟨v, rfl, hgives⟩ := hgiven
  obtain rfl := name_of_path hp
  refine ⟨fun n => ?_, fun n hn => ?_, ?_⟩
  · rw [h.keys, Dict.contains_insert, List.map_cons, List.mem_cons, or_comm (a := n = p.name), or_assoc]
  · rw [List.map_cons, List.mem_cons, not_or] at hn
    rw [h.others n hn.2, Dict.get?_insert_of_ne _ _ hn.1]
  · unfold RelatedHas
    refine ⟨fun hlast w hw => ⟨p, related, hp, hrelated, ?_⟩, h.related⟩
    rw [h.others _ hlast, Dict.get?_insert_self] at hw
    cases hw
    exact hgives

/-! ## One level -/

/-- A decoded row to which relations were attached, without the columns that were not asked for. -/
theorem rowHas_strip (hc : m.catalog.Sound) (hn : m.catalog.Named) {key : Option String} {s : Scope}
    {selected extra : List String} (hs : m.Joined e level.join s)
    (hselected : ∀ n, n ∈ selected ↔ SelectsColumn e level n)
    (hextra : ∀ n, n ∈ extra ↔ m.KeyColumn e key nested n ∧ n ∉ selected)
    (hcolumns : ∀ n ∈ selected ++ extra, Text.isIdentifier n = true)
    (hrow : ∀ n, Dict.contains row n = true ↔ n ∈ s.outputs (selected ++ extra))
    (hattached : m.Attached m.exactMembers e nested (decodeRow m.dialect s row) row') :
    m.RowHas m.exactMembers e key (.node level nested)
      (.obj (row'.filter fun entry => !extra.contains entry.1)) := by
  have hjoins : ∀ j ∈ s.joins, Text.isIdentifier j.path.name = true := fun j hj =>
    hn.isIdentifier_relation (knownPath_of_path hc (hs.paths j hj).1).name
  have hkeys : ∀ n, Dict.contains row' n = true
      ↔ (n ∈ selected ++ extra ∨ n ∈ level.join) ∨ n ∈ nested.map Prod.fst := by
    intro n
    rw [hattached.keys, contains_decodeRow hrow hcolumns hjoins, hs.names]
  have hget := Dict.get?_filter row' fun n => !extra.contains n
  have hfewer : ∀ n v, Dict.get? (row'.filter fun entry => !extra.contains entry.1) n = some v →
      row'.get? n = some v := by
    intro n v hv
    rw [hget] at hv
    split at hv
    · exact hv
    · cases hv
  unfold RowHas
  refine ⟨_, rfl, fun n => ?_, fun name hname hlast v hv => ?_, hattached.related.of_get? hfewer⟩
  · have hmembers : Dict.contains (row'.filter fun entry => !extra.contains entry.1) n = true
        ↔ n ∉ extra ∧ Dict.contains row' n = true := by
      unfold Dict.contains
      rw [hget]
      by_cases hn : n ∈ extra <;> simp [hn]
    -- A column that only stitching needs goes, and so does a relation of its name.
    rw [hmembers, hkeys, List.mem_append, hextra, hselected]
    tauto
  · have hvalue := hattached.others name hlast ▸ hfewer name v hv
    rw [get?_decodeRow] at hvalue
    have hfound : (s.joins.reverse.find? (·.path.name == name)).isSome = true := by
      simpa using (hs.names name).mpr hname
    obtain ⟨j, hj⟩ := Option.isSome_iff_exists.mp hfound
    rw [hj] at hvalue
    cases hvalue
    obtain rfl : j.path.name = name := by simpa using List.find?_some hj
    have hmem : j ∈ s.joins := List.mem_reverse.mp (List.mem_of_find?_eq_some hj)
    obtain ⟨hpath, hentity⟩ := hs.paths j hmem
    refine ⟨j.path, j.entity, hpath, hentity, ?_⟩
    unfold joinedValue
    dsimp only
    split
    · exact .inr ⟨_, rfl, fun n => contains_joined hrow hcolumns hjoins hs.distinct hmem⟩
    · exact .inl rfl

/-! ## All levels -/

theorem columns?_levelCommand {s : Scope} {columns : List String} {filter : Filter}
    {key : Option (String × List Json)} {cmd : Command} (hne : columns ≠ [])
    (h : m.levelCommand s columns filter level key = .ok cmd) :
    (cmd.statement m.dialect).columns? = some (s.outputs columns) := by
  have hselect : ∃ conditions order page, cmd = .select s columns conditions order page := by
    unfold levelCommand at h
    split at h
    all_goals
      obtain ⟨conditions, -, h⟩ := Result.of_bind h
      obtain ⟨order, -, h⟩ := Result.of_bind h
      cases h
      exact ⟨_, _, _, rfl⟩
  obtain ⟨conditions, order, page, rfl⟩ := hselect
  exact Command.columns?_select hne

mutual
/-- The objects of all rows that a level reads have their members, when the database gives each SELECT
the columns it asks for. -/
theorem ensures_fetch (hc : m.catalog.Sound) (hn : m.catalog.Named) {e : Entity}
    {key : Option (String × List Json)} (he : m.Registered e key) : (q : Query) →
      Call.Ensures Statement.Selects (m.fetch e key q) fun f =>
        ∀ row ∈ f.rows, m.RowHas m.exactMembers e (key.map Prod.fst) q (f.strip row)
  | .node level nested => by
    unfold fetch
    refine (Call.ensures_ofExcept fun _ _ => trivial).bind_returns fun filter _ => ?_
    refine (Call.ensures_lift fun _ _ => trivial).bind_returns fun s hs => ?_
    refine (Call.ensures_ofExcept fun _ _ => trivial).bind_returns fun paths hpaths => ?_
    refine (Call.ensures_ofExcept fun _ _ => trivial).bind_returns fun selected hselected => ?_
    refine (Call.ensures_lift fun _ _ => trivial).bind_returns fun cmd hcmd => ?_
    refine (Call.ensures_query fun rows hrows => hrows).bind fun rows _ => ?_
    refine (ensures_attachAll hc hn he nested _).bind fun out _ => Call.ensures_pure ?_
    -- A row of the answer comes from a decoded row, and this from one with the columns of the command.
    intro hattached hrows row' hrow'
    obtain ⟨decoded, hdecoded, hrow⟩ := Result.exists_of_mem_right hattached hrow'
    obtain ⟨row, hmem, rfl⟩ := List.mem_map.mp hdecoded
    have hpaths := Call.returns_ofExcept hpaths
    have hselected := Call.returns_ofExcept hselected
    have hprimary : e.primary.name ∈ selected ++ missing selected (neededKeys e key paths) := by
      rw [List.mem_append, mem_missing]
      by_cases hthere : e.primary.name ∈ selected
      · exact .inl hthere
      · exact .inr ⟨List.mem_cons_self, hthere⟩
    have hcolumns := columns?_levelCommand (List.ne_nil_of_mem hprimary) (Call.returns_lift hcmd)
    refine rowHas_strip hc hn (joined_scope (Call.returns_lift hs)) (fun n => mem_columns hselected)
      (fun n => ?_) (fun n hmem => ?_) (hrows row hmem _ hcolumns) hrow
    · rw [← mem_neededKeys hpaths]
      exact mem_missing
    · exact hn.isIdentifier_field (fieldName_of_level hc he.1 he.2 hpaths hselected hmem)

theorem ensures_attachAll (hc : m.catalog.Sound) (hn : m.catalog.Named) {e : Entity}
    {key : Option (String × List Json)} (he : m.Registered e key) :
    (nested : List (String × Query)) → (rows : List Row) →
      Call.Ensures Statement.Selects (m.attachAll e nested rows)
        (List.Forall₂ (m.Attached m.exactMembers e nested) rows)
  | [], rows => by
    unfold attachAll
    exact Call.ensures_pure (List.forall₂_same.mpr fun row _ => attached_nil row)
  | (name, q) :: rest, rows => by
    unfold attachAll
    refine (Call.ensures_ofExcept fun _ _ => trivial).bind_returns fun p hp => ?_
    have hpath := Call.returns_ofExcept hp
    refine (ensures_attach (R := fun related => m.RowHas m.exactMembers related (some p.theirKey) q)
      fun related keys hrelated => ensures_fetch hc hn
        ((keeps_known hc).step he hpath hrelated keys) q).bind fun mids _ => ?_
    refine (ensures_attachAll hc hn he rest mids).imp fun out hout => ?_
    rintro ⟨related, hrelated, hgiven⟩
    exact Result.forall₂_trans (fun _ _ _ hrow hmid => hmid.cons hpath hrelated hrow) hgiven hout
end

/-! ## Queries -/

theorem ensures_countScoped {D : Statement → Row → Prop} (filter : FilterInput) (joins : List String) :
    Call.Ensures D (m.countScoped e filter joins) fun _ => True := by
  refine (Call.ensures_ofExcept fun _ _ => trivial).bind_returns fun f _ => ?_
  refine (Call.ensures_lift fun _ _ => trivial).bind_returns fun s _ => ?_
  refine (Call.ensures_lift fun _ _ => trivial).bind_returns fun cmd _ => ?_
  refine (Call.ensures_query fun _ _ => trivial).bind_returns fun rows _ => ?_
  exact Call.ensures_pure trivial

theorem ensures_findMany (hc : m.catalog.Sound) (hn : m.catalog.Named)
    (he : m.catalog.entity? e.name = some e) (q : Query) :
    Call.Ensures Statement.Selects (m.findMany e q) fun found =>
      ∀ row ∈ found.data, m.RowHas m.exactMembers e none q row := by
  have hregistered : m.Registered e none := ⟨he, nofun⟩
  refine (ensures_fetch hc hn hregistered q).bind fun fetched _ => ?_
  have hdata : (∀ row ∈ fetched.rows, m.RowHas m.exactMembers e none q (fetched.strip row)) →
      ∀ row ∈ fetched.rows.map fetched.strip, m.RowHas m.exactMembers e none q row := by
    intro h row hrow
    obtain ⟨other, hother, rfl⟩ := List.mem_map.mp hrow
    exact h other hother
  dsimp only
  split
  · exact (ensures_countScoped _ _).map.bind_returns fun total _ => Call.ensures_pure hdata
  · exact (Call.ensures_pure trivial).bind_returns fun total _ => Call.ensures_pure hdata

/-- Over every catalog that declarations lead to: every object that a query answers with has the columns
that its level selects and the relations that its level asks for, and no other members, at all levels;
with the exception that a relation named like an unselected key column is missing. -/
theorem findMany_members (hm : m.catalog.Reachable) (hdeclared : ∀ d ∈ m.catalog.declared, d.Declared)
    (he : m.catalog.entity? name = some e) {q : Query} {x y : Exchange} {found : Found}
    (h : (m.findMany e q).on x = (.ok found, y)) (hxy : Call.Conforms Statement.Selects x y) :
    ∀ row ∈ found.data, m.RowHas m.exactMembers e none q row := by
  have hregistered : m.catalog.entity? e.name = some e := by
    rwa [Catalog.name_of_entity? he]
  exact (ensures_findMany hm.sound (hm.named hdeclared) hregistered q).of_conforms h hxy

/-! ## Posts and their authors -/

def titles (relation : String) : Query :=
  .node { limit := 10, select := ["title"] } [(relation, .node { limit := 10 } [])]

def titleReplies : List Reply :=
  [.rows [[("author_id", .int 3), ("id", .int 1), ("title", .str "It")]],
    .rows [[("id", .int 3), ("name", .str "Ada")]]]

def titlesRead : Statement :=
  ⟨"SELECT \"title\", \"id\", \"author_id\" FROM \"posts\" ORDER BY \"id\" ASC LIMIT 10 OFFSET 0", []⟩

def authorsRead : Statement :=
  ⟨"SELECT \"id\", \"name\" FROM \"authors\" WHERE \"id\" IN (?) ORDER BY \"id\" ASC", [.int 3]⟩

/-- The replies have the columns that are asked for, in whatever order those of the author are. -/
theorem answered_titles {authors : Statement} {names : List String}
    (hauthors : authors.columns? = some names) (hnames : ["id", "name"].Perm names) :
    Call.Answered Statement.Selects titleReplies [titlesRead, authors] := by
  have hposts : titlesRead.columns? = some ["title", "id", "author_id"] := by cbv
  refine .cons ?_ (.cons ?_ (Call.answered_nil _))
  · intro row hrow
    obtain rfl := List.mem_singleton.mp hrow
    exact Statement.selects_of_perm hposts (by decide)
  · intro row hrow
    obtain rfl := List.mem_singleton.mp hrow
    exact Statement.selects_of_perm hauthors hnames

theorem answered_authors : Call.Answered Statement.Selects titleReplies [titlesRead, authorsRead] := by
  have hauthors : authorsRead.columns? = some ["id", "name"] := by cbv
  exact answered_titles hauthors (by decide)

theorem findMany_members_library :
    let m : Engine := { catalog := Catalog.library, randomKeys := fun _ => "", softscans := false }
    let x : Exchange := { replies := titleReplies }
    m.catalog.Reachable ∧ (∀ d ∈ m.catalog.declared, d.Declared)
      ∧ m.catalog.entity? "posts" = some Catalog.authoredPosts
      ∧ ∃ found y, (m.findMany Catalog.authoredPosts (titles "author")).on x = (.ok found, y)
        ∧ Call.Conforms Statement.Selects x y
        ∧ found.data = [.obj [("author", .obj [("id", .int 3), ("name", .str "Ada")]),
          ("title", .str "It")]]
        ∧ ∀ row ∈ found.data, m.RowHas m.exactMembers Catalog.authoredPosts none (titles "author") row := by
  intro m x
  have hm : m.catalog.Reachable := Catalog.reachable_library
  have hdeclared : ∀ d ∈ m.catalog.declared, d.Declared := Catalog.declared_library
  have he : m.catalog.entity? "posts" = some Catalog.authoredPosts := rfl
  have hfound : ∃ found y,
      (m.findMany Catalog.authoredPosts (titles "author")).on x = (.ok found, y)
      ∧ y.log = x.log ++ [titlesRead, authorsRead].map .query
      ∧ found.data = [.obj [("author", .obj [("id", .int 3), ("name", .str "Ada")]),
        ("title", .str "It")]] := by
    subst m x
    refine ⟨_, _, rfl, ?_, ?_⟩
    · rfl
    · rfl
  obtain ⟨found, y, h, hlog, hdata⟩ := hfound
  have hxy : Call.Conforms Statement.Selects x y := answered_authors.conforms hlog
  exact ⟨hm, hdeclared, he, found, y, h, hxy, hdata, findMany_members hm hdeclared he h hxy⟩

/-- The relation from posts to their authors, named like the column that holds the key of the author. -/
def authorshipByKey : Relation := { Catalog.authorship with sourceName := "author_id" }

def libraryByKey : Catalog := { Catalog.library with relations := [authorshipByKey] }

theorem reachable_libraryByKey : libraryByKey.Reachable :=
  .addRelation (r := authorshipByKey) Catalog.reachable_posts rfl

/-- The author is read, but the post comes without its author. -/
theorem findMany_members_key_name :
    let m : Engine := { catalog := libraryByKey, randomKeys := fun _ => "", softscans := false }
    let x : Exchange := { replies := titleReplies }
    m.catalog.Reachable ∧ (∀ d ∈ m.catalog.declared, d.Declared)
      ∧ m.catalog.entity? "posts" = some Catalog.authoredPosts
      ∧ ∃ found y, (m.findMany Catalog.authoredPosts (titles "author_id")).on x = (.ok found, y)
        ∧ Call.Conforms Statement.Selects x y
        ∧ found.data = [.obj [("title", .str "It")]] := by
  intro m x
  have hm : m.catalog.Reachable := reachable_libraryByKey
  have hdeclared : ∀ d ∈ m.catalog.declared, d.Declared := Catalog.declared_library
  have he : m.catalog.entity? "posts" = some Catalog.authoredPosts := rfl
  have hfound : ∃ found y,
      (m.findMany Catalog.authoredPosts (titles "author_id")).on x = (.ok found, y)
      ∧ y.log = x.log ++ [titlesRead, authorsRead].map .query
      ∧ found.data = [.obj [("title", .str "It")]] := by
    subst m x
    refine ⟨_, _, rfl, ?_, ?_⟩
    · rfl
    · rfl
  obtain ⟨found, y, h, hlog, hdata⟩ := hfound
  exact ⟨hm, hdeclared, he, found, y, h, answered_authors.conforms hlog, hdata⟩

end EntityMapper.Engine
