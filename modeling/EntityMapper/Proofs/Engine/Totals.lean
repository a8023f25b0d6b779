import EntityMapper.Proofs.Catalog.Reachable
import EntityMapper.Proofs.Engine.Plans
import EntityMapper.Proofs.Sql.Counting

/-!
# Totals

The number of all matching rows is counted over the rows that the page of a query is cut out of. The
statement that counts has the tables, the conditions and the parameters of the statement that reads
the page; it only leaves out the columns, the order and the limits.
-/

namespace EntityMapper

open Sql

namespace Engine

variable {m : Engine} {e : Entity} {q : Query} {x y : Exchange} {found : Found}

/-- Counting sends one statement. -/
theorem countScoped_on {filter : Filter} {s : Scope} {c : Command} {level : QueryLevel}
    (hfilter : m.validator.convert level.filter = .ok filter) (hs : m.scope e level.join = .ok s)
    (hc : Command.counting m.dialect s filter = .ok c) (x : Exchange) :
    ((m.countScoped e level.filter level.join).on x).2.log
      = x.log ++ [.query (c.statement m.dialect)] := by
  unfold countScoped convert
  rw [hfilter, Call.on_bind_ok (Call.on_ofExcept_ok filter x),
    hs, Call.on_bind_ok (Call.on_lift (.ok s) x),
    hc, Call.on_bind_ok (Call.on_lift (.ok c) x)]
  have hlog := Call.on_query_log (c.statement m.dialect) x
  unfold run
  rw [Call.on_bind]
  rcases hr : (Call.query (c.statement m.dialect)).on x with ⟨_ | rows, z⟩ <;>
    (rw [hr] at hlog; exact hlog)

/-- The command of a page is the planned one, and is sent before all others. -/
theorem fetch_page {level : QueryLevel} {nested : List (String × Query)} {fetched : Fetched}
    (h : (m.fetch e none (.node level nested)).on x = (.ok fetched, y)) :
    ∃ s extra later, m.levelPlan e none level nested = .ok (s, fetched.command, extra)
      ∧ y.log = x.log ++ .query (fetched.command.statement m.dialect) :: later := by
  have hfetch := h
  rw [fetch_on] at h
  cases hlevel : m.levelPlan e none level nested with
  | error error =>
    rw [hlevel] at h
    cases h
  | ok plan =>
    obtain ⟨s, c, extra⟩ := plan
    rw [hlevel] at h
    obtain ⟨rows, z, -, h⟩ := Call.of_on_bind h
    obtain ⟨stitched, z, -, h⟩ := Call.of_on_bind h
    cases h
    obtain ⟨filter, paths, selected, hfilter, hs, hpaths, hselected, rfl, hc⟩ := levelPlan_cases hlevel
    obtain ⟨later, hlog⟩ := fetch_log ⟨filter, s, paths, selected, hfilter, hs, hpaths, hselected, hc⟩ x
    rw [hfetch] at hlog
    exact ⟨s, _, later, rfl, hlog⟩

/-- The rows are read first and then counted. -/
theorem findMany_parts (hscans : m.softscans = true) (h : (m.findMany e q).on x = (.ok found, y)) :
    ∃ fetched z n, (m.fetch e none q).on x = (.ok fetched, z)
      ∧ (m.countScoped e q.level.filter q.level.join).on z = (.ok n, y)
      ∧ found.statement = fetched.command.statement m.dialect ∧ found.total = some n := by
  obtain ⟨fetched, z, hfetch, h⟩ := Call.of_on_bind h
  rw [hscans] at h
  obtain ⟨total, w, htotal, h⟩ := Call.of_on_bind h
  rw [map_eq_pure_bind] at htotal
  obtain ⟨n, w, hn, htotal⟩ := Call.of_on_bind htotal
  cases htotal
  cases h
  exact ⟨fetched, z, n, hfetch, hn, rfl, rfl⟩

/-- The total is counted over the rows that the page is cut out of: the statement that counts, which
is sent last, has the tables, the conditions and the parameters of the statement that reads the page.
A filter can be counted over the tables when its rows can be selected from them. -/
theorem total_over_page (hscans : m.softscans = true)
    (h : (m.findMany e q).on x = (.ok found, y)) :
    (∃ filter s conditions between total,
      m.validator.convert q.level.filter = .ok filter
        ∧ m.scope e q.level.join = .ok s
        ∧ Condition.ofFilter m.dialect s filter = .ok conditions
        ∧ y.log = x.log ++ .query found.statement :: between ++ [.query total]
        ∧ Command.SameRows m.dialect s conditions q.level.limit q.level.offset found.statement total
        ∧ found.total.isSome)
      ∧ ∀ d s columns filter page,
        ((∃ c, Command.counting d s filter = .ok c)
          ↔ ∃ c, Command.selecting d s columns filter none page = .ok c)
        ∧ ∀ conditions, Command.counting d s filter = .ok (.count s conditions)
          ↔ Command.selecting d s columns filter none page
            = .ok (.select s columns conditions none page) := by
  refine ⟨?_, Command.counting_iff_selecting⟩
  obtain ⟨fetched, z, n, hfetch, hcount, hstatement, htotal⟩ := findMany_parts hscans h
  obtain ⟨level, nested⟩ := q
  obtain ⟨s, extra, between, hplan, hpage⟩ := fetch_page hfetch
  obtain ⟨filter, paths, selected, hfilter, hs, -, -, rfl, hc⟩ := levelPlan_cases hplan
  obtain ⟨conditions, _, hconditions, hsort, hcommand⟩ := Command.selecting_cases hc
  obtain ⟨c, _, -, rfl⟩ := Command.orderColumn_some hsort
  have hsame := Command.sameRows m.dialect s (selected ++ missing selected (neededKeys e none paths))
    conditions (c, (order s level).2) level.limit level.offset
  rw [← hcommand, ← hstatement] at hsame
  -- the count is sent on the exchange that reading the rows has left
  have hlog : y.log = z.log ++ [.query ((Command.count s conditions).statement m.dialect)] := by
    rw [← countScoped_on hfilter hs (Command.counting_eq hconditions) z]
    exact (congrArg (·.2.log) hcount).symm
  rw [hpage, ← hstatement] at hlog
  exact ⟨filter, s, conditions, between, _, hfilter, hs, hconditions, hlog, hsame, by rw [htotal]; rfl⟩

/-- Posts of an author, from the sixth on. -/
def postsOfAda : Query :=
  .node { limit := 10, offset := 5, join := ["author"], filter := [("author.name", some (.str "Ada"))] } []

def adasReplies : List Reply := [.rows [], .rows [[("count", .int 4)]]]

theorem total_over_page_library :
    let m : Engine := { catalog := Catalog.library, randomKeys := fun _ => "" }
    let x : Exchange := { replies := adasReplies }
    m.softscans = true
      ∧ ∃ found y, (m.findMany Catalog.authoredPosts postsOfAda).on x = (.ok found, y)
        ∧ found.total = some 4
        ∧ ∃ filter s conditions between total,
          m.validator.convert postsOfAda.level.filter = .ok filter
            ∧ m.scope Catalog.authoredPosts ["author"] = .ok s
            ∧ Condition.ofFilter m.dialect s filter = .ok conditions
            ∧ y.log = [] ++ .query found.statement :: between ++ [.query total]
            ∧ Command.SameRows m.dialect s conditions 10 5 found.statement total := by
  intro m x
  have hscans : m.softscans = true := rfl
  have hfour : ((m.findMany Catalog.authoredPosts postsOfAda).on x).1.toOption.bind (·.total)
      = some 4 := by decide +kernel
  rcases h : (m.findMany Catalog.authoredPosts postsOfAda).on x with ⟨error | found, y⟩
  · rw [h] at hfour
    cases hfour
  rw [h] at hfour
  obtain ⟨⟨filter, s, conditions, between, total, hfilter, hs, hconditions, hlog, hsame, -⟩, -⟩ :=
    total_over_page hscans h
  exact ⟨hscans, found, y, rfl, hfour, filter, s, conditions, between, total, hfilter, hs, hconditions,
    hlog, hsame⟩

end Engine
end EntityMapper
