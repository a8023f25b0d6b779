import EntityMapper.Engine.Reading
import EntityMapper.Proofs.Call.Count

/-!
# How many statements a query takes

Relations are loaded for all rows of a level at once. So the number of statements is bounded by the
query alone, however many rows come back: one for the rows, one for their number on all pages, and for
each relation at every depth one, or two where a junction links the rows.
-/

namespace EntityMapper

/-- The statements that load the rows of a relation; those that a junction links are found by it. -/
def Path.loads (p : Path) : Nat :=
  match p.direction with
  | .toOne | .toMany => 1
  | .manyToMany => 2

namespace Engine

mutual
/-- The statements for the relations that are loaded with the rows of an entity, at every depth. -/
def loads (m : Engine) (e : Entity) : List (String × Query) → Nat
  | [] => 0
  | (name, q) :: rest => m.loadsOf e name q + m.loads e rest

/-- The statements for one relation and for those that are loaded with its rows. -/
def loadsOf (m : Engine) (e : Entity) (name : String) : Query → Nat
  | .node _ nested =>
    match m.path e name with
    | .error _ => 0
    | .ok p =>
      match m.catalog.entity p.related with
      | .error _ => 0
      | .ok related => p.loads + m.loads related nested
end

variable {m : Engine} {e related : Entity} {name : String} {p : Path} {k : Nat}

open Call (SendsAtMost sendsAtMost_pure sendsAtMost_ofExcept sendsAtMost_lift sendsAtMost_query)

theorem loadsOf_eq (hp : m.path e name = .ok p) (hrelated : m.catalog.entity p.related = .ok related)
    (q : Query) : m.loadsOf e name q = p.loads + m.loads related q.nested := by
  obtain ⟨level, nested⟩ := q
  unfold loadsOf
  rw [hp]
  dsimp only
  rw [hrelated]
  rfl

theorem fetchPairs_sendsAtMost (j : Junction) (keys : List Json) :
    SendsAtMost 1 (m.fetchPairs j keys) := by
  refine (sendsAtMost_ofExcept _).after fun junction _ => ?_
  exact (sendsAtMost_lift _).after fun cmd _ => sendsAtMost_query _

/-- Giving rows their related rows takes no more statements when there are more rows. -/
theorem attach_sendsAtMost {level : QueryLevel} {load : Entity → String → List Json → Call Fetched}
    (rows : List Row) (hload : ∀ related, m.catalog.entity p.related = .ok related → ∀ keys,
      SendsAtMost (1 + k) (load related p.theirKey keys)) :
    SendsAtMost (p.loads + k) (m.attach p level load rows) := by
  have hone : 1 ≤ p.loads := by
    unfold Path.loads
    split <;> omega
  refine (sendsAtMost_ofExcept _).after fun related hrelated => ?_
  have hloads (keys : List Json) (stitch : Fetched → List Row) :
      SendsAtMost (1 + k) (do return stitch (← load related p.theirKey keys)) :=
    (hload related (Call.returns_ofExcept hrelated) keys).bind (k := 0) fun _ _ => sendsAtMost_pure _
  dsimp only
  split
  · exact sendsAtMost_pure _
  · split
    · rename_i j hdirection _
      have htwo : p.loads = 2 := by rw [Path.loads, hdirection]
      rw [htwo, Nat.add_assoc 1 1 k]
      exact (fetchPairs_sendsAtMost j _).bind fun pairs _ => hloads _ _
    · exact (hloads _ _).mono (Nat.add_le_add_right hone k)
    · exact (hloads _ _).mono (Nat.add_le_add_right hone k)

mutual
theorem fetch_sendsAtMost (m : Engine) (e : Entity) (key : Option (String × List Json)) :
    (q : Query) → SendsAtMost (1 + m.loads e q.nested) (m.fetch e key q)
  | .node level nested => by
    unfold fetch
    refine (sendsAtMost_ofExcept _).after fun filter _ => ?_
    refine (sendsAtMost_lift _).after fun s _ => ?_
    refine (sendsAtMost_ofExcept _).after fun paths _ => ?_
    refine (sendsAtMost_ofExcept _).after fun selected _ => ?_
    refine (sendsAtMost_lift _).after fun cmd _ => ?_
    refine (sendsAtMost_query _).bind fun rows _ => ?_
    exact (attachAll_sendsAtMost m e nested _).bind (k := 0) fun rows _ => sendsAtMost_pure _

theorem attachAll_sendsAtMost (m : Engine) (e : Entity) : (nested : List (String × Query)) →
    (rows : List Row) → SendsAtMost (m.loads e nested) (m.attachAll e nested rows)
  | [], rows => by
    unfold attachAll
    exact sendsAtMost_pure _
  | (name, q) :: rest, rows => by
    unfold attachAll loads
    refine (sendsAtMost_ofExcept _).after fun p hp => ?_
    have hpath := Call.returns_ofExcept hp
    refine SendsAtMost.bind ?_ fun rows _ => attachAll_sendsAtMost m e rest rows
    cases hentity : m.catalog.entity p.related with
    | error fault =>
      refine (sendsAtMost_ofExcept _).after fun related hrelated => ?_
      cases hentity.symm.trans (Call.returns_ofExcept hrelated)
    | ok related =>
      rw [loadsOf_eq hpath hentity]
      refine attach_sendsAtMost rows fun other hother keys => ?_
      cases hentity.symm.trans hother
      exact fetch_sendsAtMost m related _ q
end

theorem countScoped_sendsAtMost (filter : FilterInput) (joins : List String) :
    SendsAtMost 1 (m.countScoped e filter joins) := by
  refine (sendsAtMost_ofExcept _).after fun f _ => ?_
  refine (sendsAtMost_lift _).after fun s _ => ?_
  refine (sendsAtMost_lift _).after fun cmd _ => ?_
  exact (sendsAtMost_query _).bind (k := 0) fun rows _ => sendsAtMost_pure _

/-- Whatever the replies are and however many rows they hold, a query sends at most one statement for
its rows, one for their number where that is counted, and those of the relations loaded with them. -/
theorem findMany_statements (m : Engine) (e : Entity) (q : Query) (x : Exchange) :
    ∃ sent : List Statement, ((m.findMany e q).on x).2.log = x.log ++ sent.map .query
      ∧ sent.length ≤ 1 + (if m.softscans then 1 else 0) + m.loads e q.nested := by
  have hsends : SendsAtMost (1 + m.loads e q.nested + if m.softscans then 1 else 0)
      (m.findMany e q) := by
    refine (fetch_sendsAtMost m e none q).bind fun fetched _ => ?_
    dsimp only
    split
    · exact ((countScoped_sendsAtMost _ _).map _).bind (k := 0) fun total _ => sendsAtMost_pure _
    · exact (sendsAtMost_pure _).bind (n := 0) (k := 0) fun total _ => sendsAtMost_pure _
  obtain ⟨sent, hlog, hsent⟩ := hsends x
  exact ⟨sent, hlog, by omega⟩

end Engine
end EntityMapper
