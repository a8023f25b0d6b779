import EntityMapper.Proofs.Call.Alike
import EntityMapper.Proofs.Engine.Members
import EntityMapper.Proofs.Engine.Refusals
import EntityMapper.Proofs.Engine.Stitching
import EntityMapper.Proofs.Engine.Totals
import EntityMapper.Proofs.Sql.Meaning

/-!
# The first row that a filter keeps

The first row is read as a page of one row, and whether there is any is found out by counting. Both
statements have the conditions of the filter. The page begins where the query's offset says, so that
only without an offset the row is the first one.
-/

namespace EntityMapper

open Sql Stitching

/-! ## Connections -/

/-- From one exchange to another each statement is replied to as a connection does. -/
def Exchange.Through (reply : Statement → Reply) (x y : Exchange) : Prop :=
  ∀ (i : Nat) (s : Statement), y.log[x.log.length + i]? = some (.query s) →
    x.replies[i]? = some (reply s)

/-- The database answers the command over the connection. -/
def Sql.Database.Serves (db : Database) (d : Dialect) (reply : Statement → Reply) (c : Command) :
    Prop :=
  ∃ rows, reply (c.statement d) = .rows rows ∧ db.Answers c rows

namespace Exchange

variable {reply : Statement → Reply} {x y z : Exchange} {s : Statement}

theorem Through.head {later : List Event} (h : x.Through reply y)
    (hlog : y.log = x.log ++ .query s :: later) : x.replies.head? = some (reply s) := by
  rw [List.head?_eq_getElem?]
  refine h 0 s ?_
  rw [hlog, Nat.add_zero, List.getElem?_append_right (Nat.le_refl _), Nat.sub_self]
  rfl

/-- What comes after some statements went over the connection too. -/
theorem Through.rest {sent : List Statement} (h : x.Through reply y)
    (hlog : z.log = x.log ++ sent.map .query) (hreplies : z.replies = x.replies.drop sent.length) :
    z.Through reply y := by
  intro i s hs
  rw [hlog, List.length_append, List.length_map, Nat.add_assoc] at hs
  rw [hreplies, List.getElem?_drop]
  exact h _ s hs

theorem Through.asked (h : x.Through reply y) (s : Statement) : (x.asked s).Through reply y := by
  have hlog : (x.asked s).log = x.log ++ [s].map .query := rfl
  exact h.rest hlog rfl

theorem through_of_replies {sent : List Statement} (hlog : y.log = x.log ++ sent.map .query)
    (hreplies : x.replies = sent.map reply) : x.Through reply y := by
  intro i s hs
  rw [hreplies, List.getElem?_map, (Call.getElem?_sent hlog i s).mp hs]
  rfl

end Exchange

/-! ## Rows of one table -/

theorem Sql.Scope.resolve_of {e : Entity} {key : String} {c : Column} {f : Field}
    (h : (Scope.of e).resolve key = .ok (c, f)) : c = ⟨none, key⟩ := by
  unfold resolve at h
  split at h
  · obtain ⟨_, -, h⟩ := Result.of_bind h
    cases h
    rfl
  · cases h

namespace Engine

variable {m : Engine} {e : Entity} {name : String} {q : Query} {nested : List (String × Query)}
  {filter : FilterInput} {f : Filter} {conditions : List Condition} {db : Database}
  {reply : Statement → Reply} {x : Exchange}

/-! ## Counting -/

theorem run_on {c : Command} {rows : List Row} (hreply : reply (c.statement m.dialect) = .rows rows)
    (hnext : x.replies.head? = some (reply (c.statement m.dialect))) :
    (m.run c).on x = (.ok rows, x.asked (c.statement m.dialect)) := by
  unfold run
  rw [Call.query_on, hnext, hreply]
  rfl

/-- The rows are counted that meet the conditions of the filter. -/
theorem countScoped_served (hfilter : m.validator.convert filter = .ok f)
    (hconditions : Condition.ofFilter m.dialect (.of e) f = .ok conditions)
    (hserves : db.Serves m.dialect reply (.count (.of e) conditions))
    (hx : x.Through reply ((m.countScoped e filter []).on x).2) :
    ((m.countScoped e filter []).on x).1 = .ok (db.matching e.name conditions).length := by
  have hcounting := Command.counting_eq hconditions
  have hscope : m.scope e [] = .ok (.of e) := rfl
  obtain ⟨rows, hreply, hrows⟩ := hserves
  have hlevel : m.validator.convert ({ limit := 0, filter } : QueryLevel).filter = .ok f := hfilter
  have hlog := countScoped_on hlevel hscope hcounting x
  have hrun := run_on hreply (hx.head hlog)
  unfold countScoped convert
  rw [hfilter, Call.on_bind_ok (Call.on_ofExcept_ok f x), hscope,
    Call.on_bind_ok (Call.on_lift (.ok _) x), hcounting, Call.on_bind_ok (Call.on_lift (.ok _) x),
    Call.on_bind_ok hrun]
  obtain rfl : rows = [[("count", .int (db.matching e.name conditions).length)]] := hrows
  have hcount : Json.natUpTo? Json.unsignedLimit (.int (db.matching e.name conditions).length)
      = some (db.matching e.name conditions).length := by
    simp [Json.natUpTo?, db.length_matching]
  exact congrArg (fun n : Option Nat => Except.ok (n.getD 0)) hcount

theorem exists?_on (m : Engine) (e : Entity) (filter : FilterInput) (x : Exchange) :
    (m.exists? e filter).on x
      = (((m.countScoped e filter []).on x).1.map (decide <| 0 < ·),
        ((m.countScoped e filter []).on x).2) := by
  unfold exists? count
  rw [Call.on_bind]
  rcases (m.countScoped e filter []).on x with ⟨_ | _, _⟩ <;> rfl

/-! ## Loading relations -/

/-- Relations were loaded with the row: its columns are as they were, but for those that have the name
of a relation. -/
def Completes (nested : List (String × Query)) (row row' : Row) : Prop :=
  ∀ n, n ∉ nested.map Prod.fst → row'.get? n = row.get? n

theorem Completes.cons {p : Path} {R : Json → Prop} {row mid row' : Row} {inner : Query}
    (hp : m.path e name = .ok p) (hgiven : Given p R row mid) (h : Completes nested mid row') :
    Completes ((name, inner) :: nested) row row' := by
  obtain ⟨v, rfl, -⟩ := hgiven
  obtain rfl := name_of_path hp
  intro n hn
  rw [List.map_cons, List.mem_cons, not_or] at hn
  rw [h n hn.2, Dict.get?_insert_of_ne _ _ hn.1]

/-- Whatever the replies are, loading relations takes one for each statement and completes the rows. -/
theorem ensures_completes (hc : m.catalog.Sound) (hn : m.catalog.Named)
    {key : Option (String × List Json)} (he : m.Registered e key) (nested : List (String × Query))
    (rows : List Row) :
    Call.Ensures (fun _ _ => True) (m.attachAll e nested rows)
      (List.Forall₂ (Completes nested) rows) := by
  induction nested generalizing rows with
  | nil =>
    unfold attachAll
    exact Call.ensures_pure (List.forall₂_same.mpr fun row _ n _ => rfl)
  | cons entry rest ih =>
    obtain ⟨name, q⟩ := entry
    unfold attachAll
    refine (Call.ensures_ofExcept fun _ _ => trivial).bind_returns fun p hp => ?_
    have hpath := Call.returns_ofExcept hp
    refine (ensures_attach (R := fun _ _ => True) fun related keys hrelated => ?_).bind fun mids _ => ?_
    · -- of a level that is loaded only the statements count, and not what its rows are
      have hloads := ensures_fetch hc hn ((keeps_known hc).step he hpath hrelated keys) q
      intro x
      obtain ⟨sent, hlog, hreplies, -⟩ := hloads x
      exact ⟨sent, hlog, hreplies, fun _ _ _ _ _ => trivial⟩
    · refine (ih mids).imp fun out hout => ?_
      rintro ⟨related, -, hgiven⟩
      refine Result.forall₂_trans ?_ hgiven hout
      exact fun _ _ _ hrow hmid => Completes.cons hpath hrow hmid

/-- Nothing is loaded without rows. -/
theorem attachAll_nothing (hc : m.catalog.Coherent) (hrelated : m.Related e nested) (x : Exchange) :
    (m.attachAll e nested []).on x = (.ok [], x) := by
  induction nested with
  | nil =>
    unfold attachAll
    rfl
  | cons entry rest ih =>
    obtain ⟨name, q⟩ := entry
    obtain ⟨⟨p, hp⟩, hrest⟩ := List.forall_mem_cons.mp hrelated
    obtain ⟨related, hfound, -⟩ :=
      (hc.leads (List.mem_of_find?_eq_some (relation?_of_path hp))).theirKey
    have hentity : m.catalog.entity p.related = .ok related := by
      unfold Catalog.entity
      rw [hfound]
    dsimp only at hp
    unfold attachAll
    rw [hp, Call.on_bind_ok (Call.on_ofExcept_ok p x),
      Call.on_bind_ok (attach_nothing q.level x hentity rfl)]
    exact ih hrest

/-! ## The page of one row -/

/-- What is made of the rows of a page: relations are loaded with them, all rows may be counted, and
the first is shown. -/
def showFirst (m : Engine) (e : Entity) (filter : FilterInput) (nested : List (String × Query))
    (c : Command) (extra : List String) (rows : List Row) : Call (Option Json) := do
  let loaded ← m.attachAll e nested (rows.map (decodeRow m.dialect (.of e)))
  let _ ← if m.softscans then some <$> m.countScoped e filter [] else pure none
  return (loaded.map (Fetched.strip ⟨loaded, c, extra⟩)).head?

theorem sends_showFirst {c : Command} {extra : List String} (rows : List Row) :
    Call.Sends (fun _ => True) (m.showFirst e filter nested c extra rows) := by
  have hcount : Call.Sends (fun _ => True) (m.countScoped e filter []) := by
    intro x
    obtain ⟨sent, hlog, -⟩ := ensures_countScoped (D := fun _ _ => True) (m := m) (e := e) filter [] x
    exact ⟨sent, hlog, fun _ _ => trivial⟩
  refine ((keeps_anything m).sends_attachAll (e := e) none trivial nested _).bind fun loaded _ => ?_
  split
  · exact (hcount.map some).bind fun _ _ => Call.sends_pure _
  · exact (Call.sends_pure none).bind fun _ _ => Call.sends_pure _

theorem findOne_on {level : QueryLevel} {c : Command} {extra : List String}
    (hplan : m.levelPlan e none { level with filter, limit := 1 } nested = .ok (.of e, c, extra))
    (hjoin : level.join = []) (x : Exchange) :
    (m.findOne e filter (.node level nested)).on x
      = (m.run c >>= m.showFirst e filter nested c extra).on x := by
  have hfetch := fetch_on m e none { level with filter, limit := 1 } nested x
  rw [hplan] at hfetch
  dsimp only at hfetch
  obtain ⟨limit, offset, sort, _, select, join, explicitSort⟩ := level
  dsimp only at hjoin hfetch
  subst hjoin
  unfold findOne findMany
  rw [bind_assoc]
  refine (Call.on_bind_congr hfetch _).trans ?_
  unfold showFirst
  simp only [bind_assoc, pure_bind]
  cases m.softscans with
  | false => rfl
  | true =>
    simp only [if_true, bind_assoc, pure_bind]
    rfl

/-- Where rows are counted too, the count does not fail over the connection. -/
theorem showFirst_loaded {c : Command} {extra : List String} {rows loaded : List Row} {y z : Exchange}
    (hfilter : m.validator.convert filter = .ok f)
    (hconditions : Condition.ofFilter m.dialect (.of e) f = .ok conditions)
    (hserves : db.Serves m.dialect reply (.count (.of e) conditions))
    (hloaded : (m.attachAll e nested (rows.map (decodeRow m.dialect (.of e)))).on y = (.ok loaded, z))
    (hz : z.Through reply ((m.showFirst e filter nested c extra rows).on y).2) :
    ((m.showFirst e filter nested c extra rows).on y).1
      = .ok (loaded.map (Fetched.strip ⟨loaded, c, extra⟩)).head? := by
  unfold showFirst at hz ⊢
  rw [Call.on_bind_ok hloaded] at hz ⊢
  cases hscans : m.softscans with
  | false => rfl
  | true =>
    rw [hscans, if_pos rfl, map_eq_pure_bind, bind_assoc] at hz
    rw [if_pos rfl, map_eq_pure_bind, bind_assoc]
    rcases hcount : (m.countScoped e filter []).on z with ⟨r, w⟩
    have hserved := countScoped_served hfilter hconditions hserves (x := z)
    rw [hcount] at hserved
    cases r with
    | error error =>
      rw [Call.on_bind_error hcount] at hz
      cases hserved hz
    | ok n =>
      rw [Call.on_bind_ok hcount]
      rfl

/-- The answer to a request for one row where the page has this row or none: the columns that the query
selects, decoded, unless loading the relations of the row fails. -/
def Shows (m : Engine) (e : Entity) (q : Query) (columns : List String) (y : Exchange)
    (answer : Except DataError (Option Json)) : Option Row → Prop
  | none => answer = .ok none
  | some row =>
    match ((m.attachAll e q.nested [decodeRow m.dialect (.of e) (projection columns row)]).on y).1 with
    | .error error => answer = .error error
    | .ok _ => ∃ members, answer = .ok (some (.obj members))
      ∧ ∀ n, SelectsColumn e q.level n → n ∉ q.nested.map Prod.fst →
        Dict.get? members n = some (decodeColumn m.dialect e n (cell row n))

/-- What is shown of a row has the selected columns. -/
theorem get?_strip {row row' : Row} {columns extra : List String} {n : String}
    (hrow : Completes nested (decodeRow m.dialect (.of e) (projection columns row)) row')
    (hn : Text.isIdentifier n = true) (hcolumns : n ∈ columns) (hextra : n ∉ extra)
    (hnested : n ∉ nested.map Prod.fst) :
    Dict.get? (row'.filter fun entry => !extra.contains entry.1) n
      = some (decodeColumn m.dialect e n (cell row n)) := by
  rw [Dict.get?_filter row' fun n => !extra.contains n, if_pos (by simpa using hextra), hrow n hnested]
  change Dict.get? (mainColumns m.dialect (.of e) _) n = _
  rw [get?_mainColumns hn, get?_projection hcolumns]
  rfl

/-- The command of a level without joins that is read by pages. -/
theorem levelPlan_alone {level : QueryLevel} {s : Scope} {c : Command} {extra : List String}
    (h : m.levelPlan e none level nested = .ok (s, c, extra)) (hjoin : level.join = []) :
    s = .of e ∧ ∃ f selected conditions, m.validator.convert level.filter = .ok f
      ∧ columns e level.select = .ok selected ∧ (∀ n ∈ selected, n ∉ extra)
      ∧ Condition.ofFilter m.dialect (.of e) f = .ok conditions
      ∧ c = .select (.of e) (selected ++ extra) conditions
        (some (⟨none, (order (.of e) level).1⟩, (order (.of e) level).2))
        (some (level.limit, level.offset)) := by
  obtain ⟨f, paths, selected, hfilter, hs, -, hselected, rfl, hc⟩ := levelPlan_cases h
  rw [hjoin] at hs
  cases hs
  obtain ⟨conditions, _, hconditions, hsort, rfl⟩ := Command.selecting_cases hc
  obtain ⟨column, field, hresolve, rfl⟩ := Command.orderColumn_some hsort
  obtain rfl := Scope.resolve_of hresolve
  exact ⟨rfl, f, selected, conditions, hfilter, hselected,
    fun n hn hextra => (mem_missing.mp hextra).2 hn, hconditions, rfl⟩

theorem findOne_shows (hc : m.catalog.Coherent) (hsound : m.catalog.Sound) (hn : m.catalog.Named)
    (he : m.catalog.entity? e.name = some e) {level : QueryLevel} {c : Command}
    {selected extra : List String} {picked : Option Row}
    (hplan : m.levelPlan e none { level with filter, limit := 1 } nested = .ok (.of e, c, extra))
    (hjoin : level.join = []) (hfilter : m.validator.convert filter = .ok f)
    (hselected : columns e level.select = .ok selected) (hextra : ∀ n ∈ selected, n ∉ extra)
    (hconditions : Condition.ofFilter m.dialect (.of e) f = .ok conditions)
    (hserves : db.Serves m.dialect reply (.count (.of e) conditions))
    (hreply : reply (c.statement m.dialect)
      = .rows (picked.map (projection (selected ++ extra))).toList)
    (hx : x.Through reply ((m.findOne e filter (.node level nested)).on x).2) :
    m.Shows e (.node level nested) (selected ++ extra) (x.asked (c.statement m.dialect))
      ((m.findOne e filter (.node level nested)).on x).1 picked := by
  rw [findOne_on hplan hjoin] at hx ⊢
  -- The page is the first thing that is sent, so that the first reply is the connection's to it.
  obtain ⟨later, hlog⟩ := Call.query_bind_log (f := m.showFirst e filter nested c extra)
    (c.statement m.dialect) sends_showFirst x
  have hrun := run_on hreply (hx.head hlog)
  rw [Call.on_bind_ok hrun] at hx ⊢
  have hlater := hx.asked (c.statement m.dialect)
  cases picked with
  | none =>
    have hnothing := attachAll_nothing hc (related_of_levelPlan hplan)
      (x.asked (c.statement m.dialect))
    exact showFirst_loaded hfilter hconditions hserves hnothing hlater
  | some row =>
    have hregistered : m.Registered e none := ⟨he, nofun⟩
    obtain ⟨sent, hsent, hreplies, hcompletes⟩ := ensures_completes hsound hn hregistered nested
      [decodeRow m.dialect (.of e) (projection (selected ++ extra) row)]
      (x.asked (c.statement m.dialect))
    unfold Shows
    dsimp only [Query.nested]
    rcases hloaded : (m.attachAll e nested [decodeRow m.dialect (.of e)
      (projection (selected ++ extra) row)]).on (x.asked (c.statement m.dialect)) with ⟨error | loaded, z⟩
    · exact congrArg Prod.fst (Call.on_bind_error hloaded)
    · rw [hloaded] at hsent hreplies hcompletes
      obtain ⟨row', _, hrow, hnone, rfl⟩ := List.forall₂_cons_left_iff.mp
        (hcompletes (fun _ _ _ _ _ _ _ => trivial) loaded rfl)
      cases hnone
      have hshown := showFirst_loaded hfilter hconditions hserves hloaded (hlater.rest hsent hreplies)
      refine ⟨row'.filter fun entry => !extra.contains entry.1, hshown, fun n hselects hnested => ?_⟩
      have hmem := (mem_columns hselected).mpr hselects
      exact get?_strip hrow (hn.isIdentifier_field (fieldName_of_columns he hselected n hmem))
        (List.mem_append_left _ hmem) (hextra n hmem) hnested

/-- A query without joins is refused as a page of one row is, before anything is sent. Else, over every
database that answers the two statements by what they mean: there is said to be a row exactly when some
row meets the conditions, and of these rows, in the query's order, the one at the query's offset is
shown, or none where there are no more. Only at offset zero is this the first row, and one is shown
exactly when there is one. Loading the relations of the row may fail, and then the request does. -/
theorem first_row_is_found (hm : m.catalog.Reachable)
    (hdeclared : ∀ d ∈ m.catalog.declared, d.Declared) (he : m.catalog.entity? name = some e)
    (hjoin : q.level.join = []) (filter : FilterInput) :
    let sort := order (.of e) q.level
    (∀ error, m.levelPlan e none { q.level with filter, limit := 1 } q.nested = .error error →
        ∀ x, (m.findOne e filter q).on x = (.error error, x))
      ∧ ∀ s c extra,
        m.levelPlan e none { q.level with filter, limit := 1 } q.nested = .ok (s, c, extra) →
        ∃ f columns conditions, m.validator.convert filter = .ok f
          ∧ Condition.ofFilter m.dialect (.of e) f = .ok conditions
          ∧ c = .select (.of e) columns conditions (some (⟨none, sort.1⟩, sort.2))
            (some (1, q.level.offset))
          ∧ ∀ (db : Database) (reply : Statement → Reply), db.Serves m.dialect reply c →
            db.Serves m.dialect reply (.count (.of e) conditions) →
            let rows := db.matching e.name conditions
            (∀ x, x.Through reply ((m.exists? e filter).on x).2 →
                ((m.exists? e filter).on x).1 = .ok (decide (0 < rows.length)))
              ∧ ∀ x, x.Through reply ((m.findOne e filter q).on x).2 → ∃ arranged,
                db.Arranged sort.1 sort.2 rows arranged
                  ∧ m.Shows e q columns (x.asked (c.statement m.dialect))
                    ((m.findOne e filter q).on x).1 arranged[q.level.offset]?
                  ∧ (arranged[q.level.offset]?.isSome = true ↔ q.level.offset < rows.length)
                  ∧ (q.level.offset = 0 → ∀ row, arranged[q.level.offset]? = some row →
                    db.First sort.1 sort.2 rows row) := by
  intro sort
  obtain ⟨level, nested⟩ := q
  dsimp only [Query.level, Query.nested] at hjoin sort ⊢
  refine ⟨fun error hplan x => ?_, fun s c extra hplan => ?_⟩
  · refine Call.on_bind_error ?_
    refine Call.on_bind_error ?_
    refine (fetch_on m e none _ nested x).trans ?_
    rw [hplan]
  obtain ⟨rfl, f, selected, conditions, hfilter, hselected, hextra, hconditions, hc⟩ :=
    levelPlan_alone hplan hjoin
  have hregistered : m.catalog.entity? e.name = some e := by
    rwa [Catalog.name_of_entity? he]
  refine ⟨f, selected ++ extra, conditions, hfilter, hconditions, hc, fun db reply hpage hcount => ?_⟩
  refine ⟨fun x hx => ?_, fun x hx => ?_⟩
  · rw [exists?_on] at hx ⊢
    rw [countScoped_served hfilter hconditions hcount hx]
    rfl
  · obtain ⟨page, hreply, hanswer⟩ := hpage
    rw [hc] at hanswer
    obtain ⟨arranged, harranged, rfl⟩ := hanswer
    rw [List.take_one, List.head?_drop, ← Option.toList_map] at hreply
    refine ⟨arranged, harranged, ?_, ?_, fun hoffset row hrow => ?_⟩
    · exact findOne_shows hm.coherent hm.sound (hm.named hdeclared) hregistered hplan hjoin hfilter
        hselected hextra hconditions hcount hreply hx
    · rw [← harranged.perm.length_eq, isSome_getElem?]
    · rw [hoffset] at hrow
      exact harranged.first hrow

/-! ## Authors by name -/

def ada : Row := [("id", .int 1), ("name", .str "Ada")]

def bob : Row := [("id", .int 3), ("name", .str "Bob")]

def cyd : Row := [("id", .int 2), ("name", .str "Cyd")]

/-- Conditions on text have the truth that SQL gives them. -/
def namedAuthors : Database where
  rows table := if table = "authors" then [ada, cyd, bob] else []
  meets c row := c.truth? (fun column => match cell row column.name with
    | .str text => some text
    | _ => none) = some .holds
  inOrder a b := match a, b with
    | .str a, .str b => a < b ∨ a = b
    | _, _ => false
  countable table := by
    split
    · decide
    · exact Nat.zero_le _

/-- The names of authors in their order, from some place on. -/
def namesFrom (offset : Nat) : Query :=
  .node { limit := 10, offset, sort := .parse "name", explicitSort := true, select := ["name"] } []

def afterAda : FilterInput := [("name", some (.obj [("$gt", .str "Ada")]))]

def afterAdaConditions : List Condition :=
  [.compare ⟨none, "name"⟩ .gt ⟨.str "Ada", some (.text "name")⟩]

def afterAdaRead (offset : Nat) : Command :=
  .select (.of Catalog.authors) ["name", "id"] afterAdaConditions
    (some (⟨none, "name"⟩, .ascending)) (some (1, offset))

def afterAdaCount : Command := .count (.of Catalog.authors) afterAdaConditions

def twoCounted : Reply := .rows [[("count", .int 2)]]

/-- The two rows are counted, and all else is replied to with a page. -/
def countOrPage (page : List Row) (s : Statement) : Reply :=
  if s.sql = (afterAdaCount.statement .sqlite).sql then twoCounted else .rows page

def authorsEngine : Engine := { catalog := Catalog.library, randomKeys := fun _ => "" }

theorem arranged_afterAda : namedAuthors.Arranged "name" .ascending
    (namedAuthors.matching "authors" afterAdaConditions) [bob, cyd] := by
  have hrows : namedAuthors.matching "authors" afterAdaConditions = [cyd, bob] := rfl
  rw [hrows]
  refine ⟨.swap _ _ _, List.pairwise_pair.mpr ?_⟩
  change decide ("Bob" < "Cyd" ∨ "Bob" = "Cyd") = true
  decide

theorem serves_count (page : List Row) :
    namedAuthors.Serves .sqlite (countOrPage page) afterAdaCount :=
  ⟨[[("count", .int 2)]], if_pos rfl, rfl⟩

theorem serves_page {offset : Nat}
    (h : ((afterAdaRead offset).statement .sqlite).sql ≠ (afterAdaCount.statement .sqlite).sql) :
    namedAuthors.Serves .sqlite
      (countOrPage ((([bob, cyd].drop offset).take 1).map (projection ["name", "id"])))
      (afterAdaRead offset) :=
  ⟨_, if_neg h, [bob, cyd], arranged_afterAda, rfl⟩

/-- The connection replies to the two statements that ask for one of the authors after Ada. -/
theorem through_afterAda {page : List Row} {read : Statement} {x y : Exchange}
    (h : read.sql ≠ (afterAdaCount.statement .sqlite).sql)
    (hlog : y.log = x.log ++ [read, afterAdaCount.statement .sqlite].map .query)
    (hreplies : x.replies = [.rows page, twoCounted]) : x.Through (countOrPage page) y := by
  refine Exchange.through_of_replies hlog (hreplies.trans ?_)
  simp [countOrPage, h]

theorem through_someAfterAda {page : List Row} : Exchange.Through (countOrPage page)
    { replies := [twoCounted] }
    ((authorsEngine.exists? Catalog.authors afterAda).on { replies := [twoCounted] }).2 := by
  have hlog : ((authorsEngine.exists? Catalog.authors afterAda).on { replies := [twoCounted] }).2.log
      = [] ++ [afterAdaCount.statement .sqlite].map .query := rfl
  exact Exchange.through_of_replies hlog (by simp [countOrPage])

/-- The authors after Ada are Cyd and Bob. There are some, and the first of them is Bob. -/
theorem first_row_is_found_authors :
    let m := authorsEngine
    let x : Exchange := { replies := [.rows [[("id", .int 3), ("name", .str "Bob")]], twoCounted] }
    let y : Exchange := { replies := [twoCounted] }
    m.catalog.Reachable ∧ (∀ d ∈ m.catalog.declared, d.Declared)
      ∧ m.catalog.entity? "authors" = some Catalog.authors ∧ (namesFrom 0).level.join = []
      ∧ m.levelPlan Catalog.authors none
          { (namesFrom 0).level with filter := afterAda, limit := 1 } (namesFrom 0).nested
        = .ok (.of Catalog.authors, afterAdaRead 0, ["id"])
      ∧ ∃ reply, namedAuthors.Serves m.dialect reply (afterAdaRead 0)
        ∧ namedAuthors.Serves m.dialect reply afterAdaCount
        ∧ x.Through reply ((m.findOne Catalog.authors afterAda (namesFrom 0)).on x).2
        ∧ y.Through reply ((m.exists? Catalog.authors afterAda).on y).2
        ∧ ((m.exists? Catalog.authors afterAda).on y).1 = .ok true
        ∧ ∃ members, ((m.findOne Catalog.authors afterAda (namesFrom 0)).on x).1
            = .ok (some (.obj members))
          ∧ Dict.get? members "name" = some (.str "Bob") := by
  intro m x y
  have hm : m.catalog.Reachable := Catalog.reachable_library
  have hdeclared : ∀ d ∈ m.catalog.declared, d.Declared := Catalog.declared_library
  have he : m.catalog.entity? "authors" = some Catalog.authors := rfl
  have hplan : authorsEngine.levelPlan Catalog.authors none
      { (namesFrom 0).level with filter := afterAda, limit := 1 } (namesFrom 0).nested
      = .ok (.of Catalog.authors, afterAdaRead 0, ["id"]) := by rfl
  have hsql : ((afterAdaRead 0).statement .sqlite).sql ≠ (afterAdaCount.statement .sqlite).sql := by
    decide +kernel
  have hpage := serves_page hsql
  have hcount := serves_count [[("id", .int 3), ("name", .str "Bob")]]
  have hx : x.Through (countOrPage [[("id", .int 3), ("name", .str "Bob")]])
      ((m.findOne Catalog.authors afterAda (namesFrom 0)).on x).2 := through_afterAda hsql (by rfl) rfl
  have hjoin : (namesFrom 0).level.join = [] := rfl
  obtain ⟨-, hfinds⟩ := first_row_is_found hm hdeclared he hjoin afterAda
  obtain ⟨_, columns, conditions, -, -, hc, h⟩ := hfinds _ _ _ hplan
  obtain ⟨-, rfl, rfl, -⟩ := Command.select.inj hc
  obtain ⟨hexists, hfind⟩ := h namedAuthors _ hpage hcount
  refine ⟨hm, hdeclared, he, hjoin, hplan, _, hpage, hcount, hx, through_someAfterAda, ?_, ?_⟩
  · exact hexists y through_someAfterAda
  · obtain ⟨arranged, harranged, hshows, hsome, hfirst⟩ := hfind x hx
    obtain ⟨row, hrow⟩ := Option.isSome_iff_exists.mp (hsome.mpr (by decide +kernel))
    have hbob : row = bob := by
      obtain ⟨hmem, hbefore⟩ := hfirst rfl row hrow
      rcases List.mem_pair.mp (hmem : row ∈ [cyd, bob]) with rfl | rfl
      · obtain hsame | hafter := hbefore bob (by simp : bob ∈ [cyd, bob])
        · exact hsame.symm
        · exact absurd (of_decide_eq_true (p := "Cyd" < "Bob" ∨ "Cyd" = "Bob") hafter) (by decide)
      · rfl
    subst hbob
    rw [hrow] at hshows
    obtain ⟨members, hanswer, hmembers⟩ := hshows
    have hselects : SelectsColumn Catalog.authors (namesFrom 0).level "name" := List.mem_cons_self
    exact ⟨members, hanswer, hmembers "name" hselects (by simp [namesFrom, Query.nested])⟩

/-- There are authors after Ada, but from the third on none is found. -/
theorem offset_passes_over_all_rows :
    let m := authorsEngine
    let x : Exchange := { replies := [.rows [], twoCounted] }
    let y : Exchange := { replies := [twoCounted] }
    m.catalog.Reachable ∧ (∀ d ∈ m.catalog.declared, d.Declared)
      ∧ m.catalog.entity? "authors" = some Catalog.authors ∧ (namesFrom 2).level.join = []
      ∧ m.levelPlan Catalog.authors none
          { (namesFrom 2).level with filter := afterAda, limit := 1 } (namesFrom 2).nested
        = .ok (.of Catalog.authors, afterAdaRead 2, ["id"])
      ∧ ∃ reply, namedAuthors.Serves m.dialect reply (afterAdaRead 2)
        ∧ namedAuthors.Serves m.dialect reply afterAdaCount
        ∧ x.Through reply ((m.findOne Catalog.authors afterAda (namesFrom 2)).on x).2
        ∧ y.Through reply ((m.exists? Catalog.authors afterAda).on y).2
        ∧ ((m.exists? Catalog.authors afterAda).on y).1 = .ok true
        ∧ ((m.findOne Catalog.authors afterAda (namesFrom 2)).on x).1 = .ok none := by
  intro m x y
  have hplan : authorsEngine.levelPlan Catalog.authors none
      { (namesFrom 2).level with filter := afterAda, limit := 1 } (namesFrom 2).nested
      = .ok (.of Catalog.authors, afterAdaRead 2, ["id"]) := by rfl
  have hsql : ((afterAdaRead 2).statement .sqlite).sql ≠ (afterAdaCount.statement .sqlite).sql := by
    decide +kernel
  have hx : x.Through (countOrPage []) ((m.findOne Catalog.authors afterAda (namesFrom 2)).on x).2 :=
    through_afterAda hsql (by rfl) rfl
  exact ⟨Catalog.reachable_library, Catalog.declared_library, rfl, rfl, hplan, _, serves_page hsql,
    serves_count [], hx, through_someAfterAda, rfl, rfl⟩

end Engine
end EntityMapper
