import EntityMapper.Proofs.Sql.Condition
import EntityMapper.Proofs.Sql.Placeholder

/-!
# Columns, placeholders and parameters

In the column list of an INSERT and in the changes of an UPDATE, the column, the placeholder and the
parameter at one place belong to one field, and the parameter is the row's value of that field as the
dialect encodes it.
-/

namespace EntityMapper

open Sql Text

namespace Dialect

variable (d : Dialect)

/-- Where each list has one parameter, its number is its place. -/
theorem renders_map {α : Type} (f : α → List Piece) (h : ∀ a, (parameters (f a)).length = 1) (i : Nat)
    (as : List α) : d.renders i (as.map f) = as.mapIdx fun k a => d.render (i + k) (f a) := by
  induction as generalizing i with
  | nil => rfl
  | cons a as ih =>
    rw [List.map_cons, renders, h, ih (i + 1), List.mapIdx_cons]
    simp only [Nat.add_zero, Nat.add_assoc, Nat.add_comm 1]

end Dialect

namespace Sql.Command

/-! ## The values of a row -/

/-- The fields to which a row gives a value, in their order, each with the value encoded. -/
structure Encoded (d : Dialect) (row : Row) (fields : List Field) (given : List (Field × Json)) :
    Prop where
  fields : given.map Prod.fst = fields.filter fun f => (row.get? f.name).isSome
  values : ∀ g ∈ given, ∃ v, row.get? g.1.name = some v ∧ d.encode g.1 v = .ok g.2

def assignment (g : Field × Json) : Assignment := ⟨g.1.name, ⟨g.2, some g.1⟩⟩

theorem encoded_of_assignments {d : Dialect} {row : Row} {fields : List Field}
    {as : List Assignment} (h : assignments d row fields = .ok as) :
    ∃ given, Encoded d row fields given ∧ as = given.map assignment := by
  induction fields generalizing as with
  | nil =>
    cases h
    exact ⟨[], ⟨rfl, by simp⟩, rfl⟩
  | cons f fs ih =>
    unfold assignments at h
    split at h
    · rename_i hnone
      obtain ⟨given, hgiven, rfl⟩ := ih h
      refine ⟨given, ⟨?_, hgiven.values⟩, rfl⟩
      rw [hgiven.fields, List.filter_cons_of_neg (by simp [hnone])]
    · rename_i v hv
      obtain ⟨o, ho, h⟩ := Result.of_bind h
      obtain ⟨rest, hrest, h⟩ := Result.of_bind h
      cases h
      obtain ⟨w, hw, rfl⟩ := Condition.operand_ok ho
      obtain ⟨given, hgiven, rfl⟩ := ih hrest
      refine ⟨(f, w) :: given, ⟨?_, ?_⟩, rfl⟩
      · rw [List.map_cons, hgiven.fields, List.filter_cons_of_pos (by simp [hv])]
      · intro g hg
        rcases List.mem_cons.mp hg with rfl | hg
        · exact ⟨v, hv, hw⟩
        · exact hgiven.values g hg

/-! ## Texts -/

def insertText (d : Dialect) (e : Entity) (given : List (Field × Json)) : String :=
  "INSERT INTO " ++ Quoted.quote e.name
    ++ (if given.isEmpty then " DEFAULT VALUES"
      else " (" ++ ", ".intercalate (given.map fun g => Quoted.quote g.1.name) ++ ") VALUES ("
        ++ ", ".intercalate (given.mapIdx fun k g => d.placeholder (k + 1) (some g.1)) ++ ")")
    ++ " RETURNING " ++ ", ".intercalate ((storedNames e).map Quoted.quote)

/-- The beginning of the text that changes some fields, up to the last change. -/
def updateText (d : Dialect) (e : Entity) (given : List (Field × Json)) : String :=
  "UPDATE " ++ Quoted.quote e.name ++ " SET "
    ++ ", ".intercalate
      (given.mapIdx fun k g => Quoted.quote g.1.name ++ " = " ++ d.placeholder (k + 1) (some g.1))

variable (d : Dialect) (e : Entity)

/-- The placeholders of values, and what is bound when they have all been bound. -/
theorem on_values (given : List (Field × Json)) :
    Building.on ((given.map assignment).mapM fun a => a.operand.text d) []
      = (given.mapIdx fun k g => d.placeholder (k + 1) (some g.1), given.map Prod.snd) := by
  have hone (k : Nat) (g : Field × Json) :
      d.render (1 + k) (assignment g).operand.pieces = d.placeholder (k + 1) (some g.1) := by
    rw [Nat.add_comm]
    exact String.append_empty
  rw [Building.on_mapM (fun a : Assignment => a.operand.writes d), List.map_map,
    Dialect.renders_map d _ fun _ => rfl, List.flatMap_map, List.map_eq_flatMap]
  simp only [List.length_nil, Nat.zero_add, Function.comp_apply, hone]
  rfl

/-- The changes of fields, and what is bound when they have all been made. -/
theorem on_changes (given : List (Field × Json)) :
    Building.on ((given.map assignment).mapM (assignmentText d)) []
      = (given.mapIdx fun k g => Quoted.quote g.1.name ++ " = " ++ d.placeholder (k + 1) (some g.1),
        given.map Prod.snd) := by
  have hone (k : Nat) (g : Field × Json) : d.render (1 + k) (assignmentPieces (assignment g))
      = Quoted.quote g.1.name ++ " = " ++ d.placeholder (k + 1) (some g.1) := by
    rw [Nat.add_comm, assignmentPieces, List.cons_append, List.cons_append, Dialect.render_name,
      Dialect.render_word, String.append_assoc]
    congr 2
    exact String.append_empty
  rw [Building.on_mapM (writes_assignment d), List.map_map, Dialect.renders_map d _ fun _ => rfl,
    List.flatMap_map, List.map_eq_flatMap]
  simp only [List.length_nil, Nat.zero_add, Function.comp_apply, hone]
  rfl

theorem insert_statement (given : List (Field × Json)) :
    ((insert e.name (given.map assignment) (storedNames e)).statement d).sql = insertText d e given
      ∧ ((insert e.name (given.map assignment) (storedNames e)).statement d).parameters
        = given.map Prod.snd := by
  unfold statement Building.statement text
  rw [Building.on_bind, on_values, Building.on_pure]
  constructor
  · simp [insertText, returningText, assignment, Function.comp_def, String.append_assoc]
  · rfl

/-- What an UPDATE to these values is as a statement: the changes come first, with the first
parameters. -/
theorem update_statement {given : List (Field × Json)} (conditions : List Condition) :
    ∃ text values,
      ((update e.name (given.map assignment) conditions (storedNames e)).statement d).sql
        = updateText d e given ++ text
      ∧ ((update e.name (given.map assignment) conditions (storedNames e)).statement d).parameters
        = given.map Prod.snd ++ values := by
  unfold statement Building.statement text
  rw [Building.on_bind, on_changes, Building.on_bind, Condition.writes_where, Building.on_pure]
  refine ⟨d.render ((given.map Prod.snd).length + 1) (Condition.wherePieces conditions)
    ++ returningText (storedNames e), parameters (Condition.wherePieces conditions), ?_, rfl⟩
  simp only [updateText, String.append_assoc]

/-! ## Main statement -/

/-- A change of a row is an UPDATE of the fields that the row gives, or without any a SELECT, where
the filter holds. -/
theorem updating_parts {d : Dialect} {e : Entity} {row : Row} {filter : Filter} {c : Command}
    (h : updating d e row filter = .ok c) :
    ∃ given conditions, Encoded d row (e.storedFields.filter (!·.isPrimary)) given
      ∧ Condition.ofFilter d (.of e) filter = .ok conditions
      ∧ c = if given.isEmpty then .select (.of e) (storedNames e) conditions none none
        else .update e.name (given.map assignment) conditions (storedNames e) := by
  obtain ⟨changes, hchanges, h⟩ := Result.of_bind h
  obtain ⟨conditions, hconditions, h⟩ := Result.of_bind h
  obtain ⟨given, hgiven, rfl⟩ := encoded_of_assignments hchanges
  refine ⟨given, conditions, hgiven, hconditions, ?_⟩
  cases given <;> cases h <;> rfl

theorem updating_cases {d : Dialect} {e : Entity} {row : Row} {filter : Filter} {c : Command}
    (h : updating d e row filter = .ok c) :
    ∃ given conditions, Encoded d row (e.storedFields.filter (!·.isPrimary)) given
      ∧ c = if given.isEmpty then .select (.of e) (storedNames e) conditions none none
        else .update e.name (given.map assignment) conditions (storedNames e) := by
  obtain ⟨given, conditions, hgiven, -, hc⟩ := updating_parts h
  exact ⟨given, conditions, hgiven, hc⟩

/-- Values are bound in the order in which the text of a statement has their places, whatever order
its parts are made in: the placeholders of every statement are those of its parameters, in order; and
where values are given to columns, the places of columns, placeholders and parameters are those of the
fields. -/
theorem placeholders_aligned (d : Dialect) :
    (∀ c : Command, c.statement d = d.statement c.pieces ∧ Numbered d (c.statement d))
      ∧ (∀ e row c, inserting d e row = .ok c →
        ∃ given, Encoded d row e.storedFields given
          ∧ (c.statement d).sql = insertText d e given
          ∧ (c.statement d).parameters = given.map Prod.snd)
      ∧ ∀ e row filter c, updating d e row filter = .ok c →
        ∃ given, Encoded d row (e.storedFields.filter (!·.isPrimary)) given
          ∧ (given.isEmpty → ∃ columns conditions, c = .select (.of e) columns conditions none none)
          ∧ (!given.isEmpty → ∃ text values,
            (c.statement d).sql = updateText d e given ++ text
              ∧ (c.statement d).parameters = given.map Prod.snd ++ values) := by
  refine ⟨fun c => ⟨c.statement_eq d, c.numbered d⟩, ?_, ?_⟩
  · intro e row c h
    unfold inserting at h
    obtain ⟨as, has, h⟩ := Result.of_bind h
    cases h
    obtain ⟨given, hgiven, rfl⟩ := encoded_of_assignments has
    exact ⟨given, hgiven, insert_statement d e given⟩
  · intro e row filter c h
    obtain ⟨given, conditions, hgiven, rfl⟩ := updating_cases h
    refine ⟨given, hgiven, ?_, ?_⟩
    · intro hempty
      rw [if_pos hempty]
      exact ⟨_, _, rfl⟩
    · intro hsome
      rw [if_neg (by simpa using hsome)]
      exact update_statement d e conditions

def people : Entity :=
  ⟨"people", [.primary "id" .integer, .text "name", .plain "member" .boolean], {}, rfl⟩

theorem placeholders_aligned_people :
    let row : Row := [("member", .bool true), ("name", .str "Ada")]
    let filter : Filter := [("name", [("$in", .arr [.str "Eve", .str "Ann"])])]
    (∃ c, inserting .postgresql people row = .ok c
      ∧ ∃ given, Encoded .postgresql row people.storedFields given
        ∧ (c.statement .postgresql).sql = insertText .postgresql people given
        ∧ (c.statement .postgresql).parameters = given.map Prod.snd)
      ∧ ∃ c, updating .postgresql people row filter = .ok c
        ∧ ∃ given, Encoded .postgresql row (people.storedFields.filter (!·.isPrimary)) given
          ∧ (given.isEmpty → ∃ columns conditions,
            c = .select (.of people) columns conditions none none)
          ∧ (!given.isEmpty → ∃ text values,
            (c.statement .postgresql).sql = updateText .postgresql people given ++ text
              ∧ (c.statement .postgresql).parameters = given.map Prod.snd ++ values) := by
  intro row filter
  exact ⟨⟨_, rfl, (placeholders_aligned .postgresql).2.1 people row _ rfl⟩,
    ⟨_, rfl, (placeholders_aligned .postgresql).2.2 people row filter _ rfl⟩⟩

end Sql.Command
end EntityMapper
