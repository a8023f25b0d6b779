import EntityMapper.Engine.Reading
import EntityMapper.Proofs.Call
import EntityMapper.Proofs.Result

/-!
# Levels of a query

A query is read level by level. What is asked of each level's statement, and of the statements that
read junctions, holds of all that is sent for the query; and the first statement that is sent for a
query is that of its uppermost level.
-/

namespace EntityMapper.Engine

open Stitching

/-! ## What a level looks up -/

theorem relation?_of_path {m : Engine} {e : Entity} {name : String} {p : Path}
    (h : m.path e name = .ok p) : m.catalog.relation? e.name name = some p := by
  unfold path at h
  split at h
  · rename_i found hfound
    cases h
    exact hfound
  · cases h

/-- Only a way that leads to one row is joined, and none is joined twice under its name. -/
theorem joinRelation_cases {m : Engine} {e : Entity} {s s' : Sql.Scope} {name : String}
    (h : m.joinRelation e s name = .ok s') : ∃ p related, m.path e name = .ok p
      ∧ m.catalog.entity p.related = .ok related ∧ p.direction = .toOne
      ∧ (p.name ∈ s.joins.map (·.path.name) ∧ s' = s
        ∨ p.name ∉ s.joins.map (·.path.name) ∧ s' = { s with joins := s.joins ++ [⟨p, related⟩] }) := by
  unfold joinRelation at h
  split at h
  · cases h
  · rename_i p hp
    split at h
    · cases h
    · rename_i related hrelated
      split at h
      · cases h
      · rename_i joined hjoined
        cases h
        refine ⟨p, related, hp, hrelated, ?_⟩
        unfold Sql.Scope.join at hjoined
        split at hjoined
        · cases hjoined
        · rename_i hdirection
          refine ⟨not_not.mp hdirection, ?_⟩
          split at hjoined
          · rename_i hthere
            cases hjoined
            exact .inl ⟨by simpa using hthere, rfl⟩
          · rename_i hnew
            cases hjoined
            exact .inr ⟨by simpa using hnew, rfl⟩

/-! ## Commands -/

/-- The key columns that a level needs beside the selected ones. -/
def neededKeys (e : Entity) (key : Option (String × List Json)) (paths : List Path) : List String :=
  e.primary.name :: ((key.map Prod.fst).toList ++ paths.map (·.ourKey))

/-- The command is that of a level: of its scope, its selected columns with the key columns, and a
filter. -/
def LevelCommand (m : Engine) (e : Entity) (key : Option (String × List Json)) (level : QueryLevel)
    (nested : List (String × Query)) (cmd : Sql.Command) : Prop :=
  ∃ filter s paths selected, m.validator.convert level.filter = .ok filter
    ∧ m.scope e level.join = .ok s
    ∧ nested.mapM (fun entry => m.path e entry.1) = .ok paths
    ∧ columns e level.select = .ok selected
    ∧ m.levelCommand s (selected ++ missing selected (neededKeys e key paths)) filter level key
      = .ok cmd

/-- The command reads the rows of a junction that hold one of some keys. -/
def PairsCommand (m : Engine) (j : Junction) (keys : List Json) (cmd : Sql.Command) : Prop :=
  ∃ junction, m.catalog.entity j.entity = .ok junction
    ∧ Sql.Command.selectingMembers m.dialect junction [j.ourKey, j.theirKey] j.ourKey keys [] none
      = .ok cmd

/-- A property of statements that holds of the statements of all levels, given that entities and keys
are as levels come to them. -/
structure Keeps (m : Engine) (P : Statement → Prop)
    (Good : Entity → Option (String × List Json) → Prop) : Prop where
  level : ∀ {e key level nested cmd}, Good e key → m.LevelCommand e key level nested cmd →
    P (cmd.statement m.dialect)
  pairs : ∀ {e key name p j keys cmd}, Good e key → m.path e name = .ok p → p.junction = some j →
    m.PairsCommand j keys cmd → P (cmd.statement m.dialect)
  step : ∀ {e key name p related}, Good e key → m.path e name = .ok p →
    m.catalog.entity p.related = .ok related → ∀ keys, Good related (some (p.theirKey, keys))

variable {m : Engine} {P : Statement → Prop} {Good : Entity → Option (String × List Json) → Prop}

/-! ## All statements -/

theorem sends_fetchPairs {j : Junction} {keys : List Json}
    (h : ∀ cmd, m.PairsCommand j keys cmd → P (cmd.statement m.dialect)) :
    Call.Sends P (m.fetchPairs j keys) := by
  refine (Call.sends_ofExcept _).bind fun junction hjunction => ?_
  refine (Call.sends_lift _).bind fun cmd hcmd => Call.sends_query (h cmd ?_)
  exact ⟨junction, Call.returns_ofExcept hjunction, Call.returns_lift hcmd⟩

/-- Giving rows their related rows sends what loading these sends, and the pairs of a junction. -/
theorem sends_attach {p : Path} (level : QueryLevel)
    {load : Entity → String → List Json → Call Fetched} (rows : List Row)
    (hpairs : ∀ j keys cmd, p.junction = some j → m.PairsCommand j keys cmd →
      P (cmd.statement m.dialect))
    (hload : ∀ related, m.catalog.entity p.related = .ok related → ∀ keys,
      Call.Sends P (load related p.theirKey keys)) :
    Call.Sends P (m.attach p level load rows) := by
  refine (Call.sends_ofExcept _).bind fun related hrelated => ?_
  have hloads := hload related (Call.returns_ofExcept hrelated)
  dsimp only
  split
  · exact Call.sends_pure _
  · split
    · rename_i j _ hj
      refine (sends_fetchPairs fun cmd => hpairs j _ cmd hj).bind fun pairs _ => ?_
      exact (hloads _).bind fun fetched _ => Call.sends_pure _
    · exact (hloads _).bind fun fetched _ => Call.sends_pure _
    · exact (hloads _).bind fun fetched _ => Call.sends_pure _

mutual
theorem Keeps.sends_fetch (hk : m.Keeps P Good) {e : Entity} {key : Option (String × List Json)}
    (hgood : Good e key) : (q : Query) → Call.Sends P (m.fetch e key q)
  | .node level nested => by
    unfold fetch
    refine (Call.sends_ofExcept _).bind fun filter hfilter => ?_
    refine (Call.sends_lift _).bind fun s hs => ?_
    refine (Call.sends_ofExcept _).bind fun paths hpaths => ?_
    refine (Call.sends_ofExcept _).bind fun selected hselected => ?_
    refine (Call.sends_lift _).bind fun cmd hcmd => ?_
    have hlevel : m.LevelCommand e key level nested cmd :=
      ⟨filter, s, paths, selected, Call.returns_ofExcept hfilter, Call.returns_lift hs,
        Call.returns_ofExcept hpaths, Call.returns_ofExcept hselected, Call.returns_lift hcmd⟩
    refine (Call.sends_query (hk.level hgood hlevel)).bind fun rows _ => ?_
    exact (hk.sends_attachAll key hgood nested _).bind fun rows _ => Call.sends_pure _

theorem Keeps.sends_attachAll (hk : m.Keeps P Good) {e : Entity}
    (key : Option (String × List Json)) (hgood : Good e key) :
    (nested : List (String × Query)) → (rows : List Row) →
      Call.Sends P (m.attachAll e nested rows)
  | [], rows => by
    unfold attachAll
    exact Call.sends_pure _
  | (name, q) :: rest, rows => by
    unfold attachAll
    refine (Call.sends_ofExcept _).bind fun p hp => ?_
    have hpath := Call.returns_ofExcept hp
    refine (sends_attach q.level rows ?_ ?_).bind fun rows _ =>
      hk.sends_attachAll key hgood rest rows
    · exact fun j keys cmd hj => hk.pairs hgood hpath hj
    · exact fun related hrelated keys => hk.sends_fetch (hk.step hgood hpath hrelated keys) q
end

/-! ## The first statement -/

theorem keeps_anything (m : Engine) : m.Keeps (fun _ => True) fun _ _ => True :=
  ⟨fun _ _ => trivial, fun _ _ _ _ => trivial, fun _ _ _ _ => trivial⟩

section First

variable {e : Entity} {key : Option (String × List Json)} {level : QueryLevel}
  {nested : List (String × Query)}

/-- What a query sends first is the statement of its uppermost level. -/
theorem fetch_log {cmd : Sql.Command} (h : m.LevelCommand e key level nested cmd) (x : Exchange) :
    ∃ later, ((m.fetch e key (.node level nested)).on x).2.log
      = x.log ++ .query (cmd.statement m.dialect) :: later := by
  obtain ⟨filter, s, paths, selected, hfilter, hs, hpaths, hselected, hcmd⟩ := h
  unfold neededKeys at hcmd
  unfold fetch convert
  rw [hfilter, Call.on_bind_ok (Call.on_ofExcept_ok filter x),
    hs, Call.on_bind_ok (Call.on_lift (.ok s) x),
    hpaths, Call.on_bind_ok (Call.on_ofExcept_ok paths x),
    hselected, Call.on_bind_ok (Call.on_ofExcept_ok selected x)]
  dsimp only
  rw [hcmd, Call.on_bind_ok (Call.on_lift (.ok cmd) x)]
  refine Call.query_bind_log (P := fun _ => True) (cmd.statement m.dialect) (fun rows => ?_) x
  have hattach := (keeps_anything m).sends_attachAll (e := e) key trivial nested
  exact (hattach _).bind fun _ _ => Call.sends_pure _

/-- A query that has no command for its uppermost level sends nothing. -/
theorem fetch_log_none (h : ¬∃ cmd, m.LevelCommand e key level nested cmd) (x : Exchange) :
    ((m.fetch e key (.node level nested)).on x).2.log = x.log := by
  unfold fetch convert
  cases hfilter : m.validator.convert level.filter with
  | error err => rfl
  | ok filter =>
    rw [Call.on_bind_ok (Call.on_ofExcept_ok filter x)]
    cases hs : m.scope e level.join with
    | error err => rfl
    | ok s =>
      rw [Call.on_bind_ok (Call.on_lift (.ok s) x)]
      cases hpaths : nested.mapM fun entry => m.path e entry.1 with
      | error err => rfl
      | ok paths =>
        rw [Call.on_bind_ok (Call.on_ofExcept_ok paths x)]
        cases hselected : columns e level.select with
        | error err => rfl
        | ok selected =>
          rw [Call.on_bind_ok (Call.on_ofExcept_ok selected x)]
          dsimp only
          cases hcmd : m.levelCommand s (selected ++ missing selected (neededKeys e key paths)) filter
              level key with
          | error err =>
            unfold neededKeys at hcmd
            rw [hcmd]
            rfl
          | ok cmd =>
            exact absurd ⟨cmd, filter, s, paths, selected, hfilter, hs, hpaths, hselected, hcmd⟩ h

end First

end EntityMapper.Engine
