import EntityMapper.Proofs.Call.Refusal
import EntityMapper.Proofs.Dict
import EntityMapper.Proofs.Engine.Levels
import EntityMapper.Proofs.Sql.Condition

/-!
# What a level looks at

All that a level of a query asks for is looked at before its rows are read: its filter, the relations it
is joined with or loads, its columns, and the command that comes of them. The keys a level is
restricted by are looked at with the rest, and do not decide whether it is refused.
-/

namespace EntityMapper

open Sql Stitching

variable {d : Dialect} {s : Scope} {c : Column} {f : Field}

/-! ## Conditions -/

namespace Sql.Condition

theorem not_refuses_operand (value : Json) : ¬Refuses (operand d f value) := by
  unfold operand
  split <;> nofun

/-- Which values a list has decides whether they can be sent, and not whether the query is accepted. -/
theorem not_refuses_membership (negated : Bool) (value : Json) :
    ¬Refuses (membership d c f negated value) := by
  unfold membership
  split
  · exact not_refuses_ok _
  · exact not_refuses_bind (not_refuses_mapM fun item _ => not_refuses_operand item)
      fun _ _ => not_refuses_ok _

theorem not_refuses_in (items : List Json) : ¬Refuses (ofOperator d c f "$in" (.arr items)) :=
  not_refuses_membership false (.arr items)

theorem follows_ofEntry {key : String} {operators operators' : Dict Json}
    (h : ∀ c f, s.resolve key = .ok (c, f) → List.Forall₂
      (fun a b => Follows (ofOperator d c f a.1 a.2) (ofOperator d c f b.1 b.2)) operators operators') :
    Follows (ofEntry d s (key, operators)) (ofEntry d s (key, operators')) := by
  unfold ofEntry
  dsimp only
  split
  · exact .refl _
  · rename_i c f hresolve
    exact .mapM (h c f hresolve)

theorem follows_ofFilter (filter : Filter) {column : String} {v w : Json}
    (h : ∀ c f, s.resolve column = .ok (c, f) →
      Follows (ofOperator d c f "$in" v) (ofOperator d c f "$in" w)) :
    Follows (ofFilter d s (filter.put column "$in" v)) (ofFilter d s (filter.put column "$in" w)) := by
  unfold ofFilter Filter.put
  refine (Follows.mapM ?_).bind fun _ _ _ _ => follows_ok _ _
  refine Dict.forall₂_insert (fun _ => .refl _) filter (follows_ofEntry fun c f hresolve => ?_)
  exact Dict.forall₂_insert (fun _ => .refl _) _ (h c f hresolve)

end Sql.Condition

/-! ## Levels -/

namespace Engine

variable {m : Engine} {e : Entity} {key : Option (String × List Json)} {level : QueryLevel}
  {nested : List (String × Query)}

/-- What a level looks at before its rows are read: the scope, the command, and the columns that are
only read to stitch. -/
def levelPlan (m : Engine) (e : Entity) (key : Option (String × List Json)) (level : QueryLevel)
    (nested : List (String × Query)) : Except DataError (Scope × Command × List String) := do
  let filter ← (m.validator.convert level.filter).mapError .query
  let s ← m.scope e level.join
  let paths ← (nested.mapM fun entry => m.path e entry.1).mapError .query
  let selected ← (columns e level.select).mapError .query
  let extra := missing selected (neededKeys e key paths)
  let c ← m.levelCommand s (selected ++ extra) filter level key
  return (s, c, extra)

theorem ok_of_mapError {α : Type} {r : Except QueryError α} {a : α}
    (h : r.mapError DataError.query = .ok a) : r = .ok a := by
  cases r <;> cases h
  rfl

theorem levelPlan_cases {c : Command} {extra : List String}
    (h : m.levelPlan e key level nested = .ok (s, c, extra)) :
    ∃ filter paths selected, m.validator.convert level.filter = .ok filter
      ∧ m.scope e level.join = .ok s
      ∧ nested.mapM (fun entry => m.path e entry.1) = .ok paths
      ∧ columns e level.select = .ok selected
      ∧ extra = missing selected (neededKeys e key paths)
      ∧ m.levelCommand s (selected ++ extra) filter level key = .ok c := by
  unfold levelPlan at h
  obtain ⟨filter, hfilter, h⟩ := Result.of_bind h
  obtain ⟨_, hs, h⟩ := Result.of_bind h
  obtain ⟨paths, hpaths, h⟩ := Result.of_bind h
  obtain ⟨selected, hselected, h⟩ := Result.of_bind h
  obtain ⟨_, hc, h⟩ := Result.of_bind h
  cases h
  exact ⟨filter, paths, selected, ok_of_mapError hfilter, hs, ok_of_mapError hpaths,
    ok_of_mapError hselected, rfl, hc⟩

/-- Reading a level is reading its rows after all else was looked at. -/
theorem fetch_on (m : Engine) (e : Entity) (key : Option (String × List Json)) (level : QueryLevel)
    (nested : List (String × Query)) (x : Exchange) :
    (m.fetch e key (.node level nested)).on x =
      match m.levelPlan e key level nested with
      | .error error => (.error error, x)
      | .ok (s, c, extra) =>
        (do
          let rows ← m.run c
          let rows ← m.attachAll e nested (rows.map (decodeRow m.dialect s))
          return { rows, command := c, extra } : Call Fetched).on x := by
  unfold fetch convert levelPlan
  cases m.validator.convert level.filter with
  | error fault => rfl
  | ok filter =>
    rw [Call.on_bind_ok (Call.on_ofExcept_ok filter x)]
    cases m.scope e level.join with
    | error error => rfl
    | ok s =>
      rw [Call.on_bind_ok (Call.on_lift (.ok s) x)]
      cases nested.mapM fun entry => m.path e entry.1 with
      | error fault => rfl
      | ok paths =>
        rw [Call.on_bind_ok (Call.on_ofExcept_ok paths x)]
        cases columns e level.select with
        | error fault => rfl
        | ok selected =>
          rw [Call.on_bind_ok (Call.on_ofExcept_ok selected x)]
          dsimp only [neededKeys, Except.mapError, bind, Except.bind]
          cases m.levelCommand s _ filter level key with
          | error error => rfl
          | ok c => exact Call.on_bind_ok (Call.on_lift (.ok c) x)

theorem not_refuses_fetch {x : Exchange} (hplan : ¬Refuses (m.levelPlan e key level nested))
    (hrows : ∀ s c extra, m.levelPlan e key level nested = .ok (s, c, extra) →
      ∀ rows y, (m.run c).on x = (.ok rows, y) →
        ¬Refuses ((m.attachAll e nested (rows.map (decodeRow m.dialect s))).on y).1) :
    ¬Refuses ((m.fetch e key (.node level nested)).on x).1 := by
  rw [fetch_on]
  cases hlevel : m.levelPlan e key level nested with
  | error error =>
    rintro ⟨fault, hrefused⟩
    cases hrefused
    exact hplan ⟨fault, hlevel⟩
  | ok plan =>
    obtain ⟨s, c, extra⟩ := plan
    refine Call.not_refuses_on_bind (Call.accepts_query _ x) fun rows y hrun => ?_
    exact Call.not_refuses_on_bind (hrows s c extra hlevel rows y hrun) fun _ _ _ => not_refuses_ok _

/-- A level is looked at in the same way whatever keys it is restricted by. -/
theorem follows_levelPlan {column : String} {keys keys' : List Json}
    (h : ∀ s c f, m.scope e level.join = .ok s → s.resolve column = .ok (c, f) →
      Follows (Condition.ofOperator m.dialect c f "$in" (.arr keys))
        (Condition.ofOperator m.dialect c f "$in" (.arr keys'))) :
    Follows (m.levelPlan e (some (column, keys)) level nested)
      (m.levelPlan e (some (column, keys')) level nested) := by
  unfold levelPlan
  cases m.validator.convert level.filter with
  | error fault => exact .refl _
  | ok filter =>
    cases hs : m.scope e level.join with
    | error error => exact .refl _
    | ok s =>
      cases nested.mapM fun entry => m.path e entry.1 with
      | error fault => exact .refl _
      | ok paths =>
        cases columns e level.select with
        | error fault => exact .refl _
        | ok selected =>
          have hcommand (columns : List String) :
              Follows (m.levelCommand s columns filter level (some (column, keys)))
                (m.levelCommand s columns filter level (some (column, keys'))) :=
            (Condition.follows_ofFilter filter fun c f => h s c f hs).bind fun _ _ _ _ =>
              (Follows.refl _).bind fun _ _ _ _ => follows_ok _ _
          exact (hcommand _).bind fun _ _ _ _ => follows_ok _ _

/-- Keys that a level is restricted by may fail to be keys. They do not make the query refused. -/
theorem follows_keys (column : String) (keys : List Json) :
    Follows (m.levelPlan e (some (column, keys)) level nested)
      (m.levelPlan e (some (column, [])) level nested) :=
  follows_levelPlan fun _ _ _ _ _ =>
    follows_of_not_refuses (Condition.not_refuses_in keys) (Condition.constant false)

end Engine
end EntityMapper
