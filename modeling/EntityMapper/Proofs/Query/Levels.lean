import EntityMapper.Proofs.Dict
import EntityMapper.Proofs.Result
import EntityMapper.Query.Basic

/-!
# Levels of queries

A query has a level for each query nested in it. What holds of each level that a document asks for, and
of the one that stands for a relation's name alone, holds of all levels of a query that was read.
-/

namespace EntityMapper.Query

/-- Holds of what a query asks for and of what every query nested in it does. -/
inductive Every (P : QueryLevel → Prop) : Query → Prop
  | node {level : QueryLevel} {nested : List (String × Query)} :
    P level → (∀ entry ∈ nested, Every P entry.2) → Every P (.node level nested)

variable {o : QueryOptions} {q : Query} {P Q : QueryLevel → Prop}

theorem Every.imp (h : q.Every P) (himp : ∀ level, P level → Q level) : q.Every Q := by
  induction h with
  | node hlevel _ ih => exact .node (himp _ hlevel) ih

theorem of_readLevel {m : QueryMembers} {level : QueryLevel} (h : readLevel o m = .ok level) :
    ∃ filter, (m.filter.map FilterInput.ofJson).getD (.ok []) = .ok filter
      ∧ level = {
        limit := (m.limit.map (min · o.maxLimit)).getD o.defaultLimit
        offset := m.offset.getD 0
        sort := (m.sort.map SortSpec.toOrder).getD .default
        filter
        select := (m.select.map NameList.toList).getD []
        join := (m.join.map NameList.toList).getD []
        explicitSort := m.sort.isSome } := by
  unfold readLevel at h
  cases hfilter : m.filter with
  | none =>
    rw [hfilter] at h
    cases h
    refine ⟨[], rfl, ?_⟩
    cases m.limit <;> rfl
  | some doc =>
    rw [hfilter] at h
    obtain ⟨filter, hread, h⟩ := Result.of_bind h
    cases h
    refine ⟨filter, hread, ?_⟩
    cases m.limit <;> rfl

theorem of_read {m : QueryMembers} {relations : Option RelationsDocument}
    (h : read o (.mk m relations) = .ok q) :
    ∃ level nested, readLevel o m = .ok level ∧ readRelations o relations = .ok nested
      ∧ q = .node level nested := by
  rw [read] at h
  obtain ⟨level, hlevel, h⟩ := Result.of_bind h
  obtain ⟨nested, hnested, h⟩ := Result.of_bind h
  cases h
  exact ⟨level, nested, hlevel, hnested, rfl⟩

theorem of_readNested {name : String} {d : QueryDocument}
    {rest : List (String × QueryDocument)} {nested : List (String × Query)}
    (h : readNested o ((name, d) :: rest) = .ok nested) :
    ∃ q others, read o d = .ok q ∧ readNested o rest = .ok others
      ∧ nested = (name, q) :: others := by
  rw [readNested] at h
  obtain ⟨q, hq, h⟩ := Result.of_bind h
  obtain ⟨others, hothers, h⟩ := Result.of_bind h
  cases h
  exact ⟨q, others, hq, hothers, rfl⟩

theorem every_withOptions (h : P { limit := o.defaultLimit }) : (withOptions o).Every P :=
  .node h fun _ hentry => nomatch hentry

mutual
theorem every_of_read (hread : ∀ m level, readLevel o m = .ok level → P level)
    (hplain : P { limit := o.defaultLimit }) :
    (d : QueryDocument) → {q : Query} → read o d = .ok q → q.Every P
  | .mk m relations, q, h => by
    obtain ⟨level, nested, hlevel, hnested, rfl⟩ := of_read h
    exact .node (hread m level hlevel) (every_of_readRelations hread hplain relations hnested)

theorem every_of_readRelations (hread : ∀ m level, readLevel o m = .ok level → P level)
    (hplain : P { limit := o.defaultLimit }) :
    (relations : Option RelationsDocument) → {nested : List (String × Query)} →
      readRelations o relations = .ok nested → ∀ entry ∈ nested, entry.2.Every P
  | none, nested, h => by
    cases h
    exact fun _ hentry => nomatch hentry
  | some (.names list), nested, h => by
    cases h
    intro entry hentry
    obtain ⟨name, -, rfl⟩ := List.mem_map.mp (Dict.mem_of_mem_ofList hentry)
    exact every_withOptions hplain
  | some (.nested queries), nested, h => every_of_readNested hread hplain queries h

theorem every_of_readNested (hread : ∀ m level, readLevel o m = .ok level → P level)
    (hplain : P { limit := o.defaultLimit }) :
    (queries : List (String × QueryDocument)) → {nested : List (String × Query)} →
      readNested o queries = .ok nested → ∀ entry ∈ nested, entry.2.Every P
  | [], nested, h => by
    cases h
    exact fun _ hentry => nomatch hentry
  | (name, d) :: rest, nested, h => by
    obtain ⟨q, others, hq, hothers, rfl⟩ := of_readNested h
    intro entry hentry
    rcases List.mem_cons.mp hentry with rfl | hentry
    · exact every_of_read hread hplain d hq
    · exact every_of_readNested hread hplain rest hothers entry hentry
end

end EntityMapper.Query
