import EntityMapper.Proofs.Catalog.Reachable
import EntityMapper.Proofs.Engine.Levels
import EntityMapper.Proofs.Filter.Predicates
import EntityMapper.Proofs.Sql.Condition

/-!
# The conditions of nested levels

The rows of a relation are read with the keys of the rows they belong to put into the filter of their
level. All predicates of that filter stay in force but one: membership of the key column in a list of
the caller's own gives way to membership in the list of keys.
-/

namespace EntityMapper.Engine

open Sql

variable {m : Engine} {e : Entity} {key : String} {keys : List Json} {level : QueryLevel}
  {nested : List (String × Query)} {cmd : Command}

/-- The command of a nested level reads all rows that satisfy the level's filter with the keys put
into it. -/
theorem nested_level (h : m.LevelCommand e (some (key, keys)) level nested cmd) :
    ∃ filter scope columns conditions order, m.validator.convert level.filter = .ok filter
      ∧ cmd = .select scope columns conditions order none
      ∧ List.Forall₂ (Condition.For m.dialect scope) (filter.put key "$in" (.arr keys)).predicates
        conditions := by
  obtain ⟨filter, s, paths, selected, hfilter, -, -, -, hcmd⟩ := h
  obtain ⟨conditions, hconditions, hcmd⟩ := Result.of_bind hcmd
  obtain ⟨order, -, hcmd⟩ := Result.of_bind hcmd
  cases hcmd
  exact ⟨filter, s, _, conditions, order, hfilter, rfl, Condition.ofFilter_predicates hconditions⟩

/-- The SELECT of a nested level has a condition for each predicate of the level's filter and for the
keys of the rows it is read for, with one exception: it has all of the caller's predicates exactly
when the caller does not ask for membership of the key column in another list. -/
theorem nested_select_conditions (m : Engine) (e : Entity) (key : String) (keys : List Json)
    (level : QueryLevel) (nested : List (String × Query)) (x : Exchange) :
    ((¬∃ cmd, m.LevelCommand e (some (key, keys)) level nested cmd) →
        ((m.fetch e (some (key, keys)) (.node level nested)).on x).2.log = x.log)
      ∧ ∀ cmd, m.LevelCommand e (some (key, keys)) level nested cmd →
        ∃ filter scope columns conditions order later,
          m.validator.convert level.filter = .ok filter
          ∧ cmd = .select scope columns conditions order none
          ∧ ((m.fetch e (some (key, keys)) (.node level nested)).on x).2.log
            = x.log ++ .query (cmd.statement m.dialect) :: later
          ∧ List.Forall₂ (Condition.For m.dialect scope)
            (filter.put key "$in" (.arr keys)).predicates conditions
          ∧ (key, "$in", Json.arr keys) ∈ (filter.put key "$in" (.arr keys)).predicates
          ∧ (∀ p ∈ filter.predicates, (p.1, p.2.1) ≠ (key, "$in") →
            p ∈ (filter.put key "$in" (.arr keys)).predicates)
          ∧ ((∀ field operator v, filter.operand? field operator = some v →
              (filter.put key "$in" (.arr keys)).operand? field operator = some v)
            ↔ ∀ v, filter.operand? key "$in" = some v → v = .arr keys) := by
  refine ⟨fun h => fetch_log_none h x, fun cmd h => ?_⟩
  obtain ⟨filter, scope, columns, conditions, order, hfilter, hcmd, hconditions⟩ := nested_level h
  obtain ⟨later, hlog⟩ := fetch_log h x
  refine ⟨filter, scope, columns, conditions, order, later, hfilter, hcmd, hlog, hconditions, ?_, ?_,
    Filter.put_keeps_iff⟩
  · exact Filter.mem_predicates_of_operand? Filter.operand?_put_self
  · exact fun p hp hne => Filter.mem_predicates_put hp hne

theorem nested_select_conditions_library :
    let m : Engine := { catalog := Catalog.library, randomKeys := fun _ => "" }
    let level : QueryLevel := { limit := 10, filter := [("id", some (.obj [("$ne", .int 7)]))] }
    ∃ cmd, m.LevelCommand Catalog.authors (some ("id", [.int 3])) level [] cmd
      ∧ ∃ filter scope columns conditions order later,
        m.validator.convert level.filter = .ok filter
        ∧ cmd = .select scope columns conditions order none
        ∧ ((m.fetch Catalog.authors (some ("id", [.int 3])) (.node level [])).on {}).2.log
          = [] ++ .query (cmd.statement m.dialect) :: later
        ∧ List.Forall₂ (Condition.For m.dialect scope)
          (filter.put "id" "$in" (.arr [.int 3])).predicates conditions
        ∧ ("id", "$in", Json.arr [.int 3]) ∈ (filter.put "id" "$in" (.arr [.int 3])).predicates
        ∧ (∀ p ∈ filter.predicates, (p.1, p.2.1) ≠ ("id", "$in") →
          p ∈ (filter.put "id" "$in" (.arr [.int 3])).predicates)
        ∧ ((∀ field operator v, filter.operand? field operator = some v →
            (filter.put "id" "$in" (.arr [.int 3])).operand? field operator = some v)
          ↔ ∀ v, filter.operand? "id" "$in" = some v → v = .arr [.int 3]) := by
  intro m level
  have h : ∃ cmd, m.LevelCommand Catalog.authors (some ("id", [.int 3])) level [] cmd :=
    ⟨_, _, _, _, _, rfl, rfl, rfl, rfl, rfl⟩
  obtain ⟨cmd, h⟩ := h
  exact ⟨cmd, h, (nested_select_conditions m Catalog.authors "id" [.int 3] level [] {}).2 cmd h⟩

/-- The authors of posts, of which only the one with the key 7 is asked for: the SELECT of the authors
only knows the key 3 of the post's author. -/
theorem nested_in_gives_way :
    let m : Engine := { catalog := Catalog.library, randomKeys := fun _ => "", softscans := false }
    let doc : Json := .obj [("with", .obj [("author", .obj [("where",
      .obj [("id", .obj [("$in", .arr [.int 7])])])])])]
    let x : Exchange := { replies := [.rows [[("author_id", .int 3), ("id", .int 1)]]] }
    let sent := ((m.findJson Catalog.authoredPosts doc).on x).2.log.map fun event =>
      match event with
      | .query s => (s.sql, s.parameters.map Json.compact)
      | _ => ("", [])
    sent = [("SELECT \"id\", \"title\", \"author_id\" FROM \"posts\" ORDER BY \"id\" ASC"
        ++ " LIMIT 10 OFFSET 0", []),
      ("SELECT \"id\", \"name\" FROM \"authors\" WHERE \"id\" IN (?) ORDER BY \"id\" ASC", ["3"])] := by
  decide +kernel

end EntityMapper.Engine
