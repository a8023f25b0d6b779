import EntityMapper.Proofs.Schema.Order
import Mathlib.Data.List.Nodup

/-!
# Entities after those they point at

Foreign keys may point at the entity that holds them, at entities that are declared nowhere, and round
in cycles. Where no different entities of a list point at each other in a cycle, and only there, each
is put after all those of the list that it points at. The main statement also says that nothing is lost
and that a list in such an order stays as it is.
-/

namespace EntityMapper

open Schema

/-- A relation field of the entity has another entity for its target. -/
def Entity.PointsAt (e d : Entity) : Prop :=
  d.name ≠ e.name ∧ ∃ f ∈ e.fields, ∃ key, f.kind = .relation key ∧ key.target = d.name

theorem Entity.not_pointsAt_self (e : Entity) : ¬e.PointsAt e := fun h => h.1 rfl

namespace Schema

variable {all : List Entity} {e d : Entity}

/-! ## What is looked at -/

theorem mem_targets {name : String} :
    name ∈ targets e ↔ ∃ f ∈ e.fields, ∃ key, f.kind = .relation key ∧ key.target = name := by
  unfold targets
  rw [List.mem_filterMap]
  refine exists_congr fun f => and_congr_right fun _ => ?_
  cases f.kind <;> simp

theorem pointsAt_iff : e.PointsAt d ↔ d.name ≠ e.name ∧ d.name ∈ targets e := by
  rw [Entity.PointsAt, mem_targets]

instance (e d : Entity) : Decidable (e.PointsAt d) := decidable_of_iff' _ pointsAt_iff

theorem mem_dependencies (h : (all.map (·.name)).Nodup) (he : e ∈ all) {name : String} :
    name ∈ dependencies all e.name ↔ ∃ d ∈ all, e.PointsAt d ∧ d.name = name := by
  have hfound : all.reverse.find? (·.name == e.name) = some e := by
    refine Keyed.find?_of_mem ?_ (List.mem_reverse.mpr he)
    rwa [List.map_reverse, List.nodup_reverse]
  unfold dependencies
  rw [hfound]
  simp only [List.mem_filter, Bool.and_eq_true, bne_iff_ne, List.any_eq_true, beq_iff_eq]
  constructor
  · rintro ⟨htarget, hne, d, hd, rfl⟩
    exact ⟨d, hd, pointsAt_iff.mpr ⟨hne, htarget⟩, rfl⟩
  · rintro ⟨d, hd, hpoints, rfl⟩
    obtain ⟨hne, htarget⟩ := pointsAt_iff.mp hpoints
    exact ⟨htarget, hne, d, hd, rfl⟩

theorem readyWhen_dependencies (h : (all.map (·.name)).Nodup) :
    ReadyWhen Entity.name Entity.PointsAt all
      fun placed e => (dependencies all e.name).all placed.contains := by
  intro placed e he
  simp only [List.all_eq_true, mem_dependencies h he, List.contains_iff_mem]
  constructor
  · exact fun hplaced d hd hpoints => hplaced d.name ⟨d, hd, hpoints, rfl⟩
  · rintro hplaced _ ⟨d, hd, hpoints, rfl⟩
    exact hplaced d hd hpoints

/-! ## Order -/

/-- Each entity of the list comes after those of the list that it points at. -/
def TargetsFirst (all : List Entity) : Prop :=
  ∀ before e after, all = before ++ e :: after → ∀ d ∈ all, e.PointsAt d → d ∈ before

theorem targetsFirst_iff_pairwise (h : (all.map (·.name)).Nodup) :
    TargetsFirst all ↔ all.Pairwise fun e d => ¬e.PointsAt d := by
  constructor
  · intro hfirst
    refine List.pairwise_iff_forall_sublist.mpr fun {e d} hsub hpoints => ?_
    obtain ⟨start, after, rfl, he, hd⟩ := List.cons_sublist_iff.mp hsub
    obtain ⟨before, between, rfl⟩ := List.append_of_mem he
    have hd : d ∈ after := List.singleton_sublist.mp hd
    have hbefore : d ∈ before :=
      hfirst before e (between ++ after) (by simp) d (List.mem_append_right _ hd) hpoints
    have hdistinct := (List.nodup_append.mp (List.Nodup.of_map _ h)).2.2
    exact hdistinct d (List.mem_append_left _ hbefore) d hd rfl
  · rintro hpairwise before e after rfl d hd hpoints
    obtain ⟨-, htail, -⟩ := List.pairwise_append.mp hpairwise
    rcases List.mem_append.mp hd with hd | hd
    · exact hd
    · rcases List.mem_cons.mp hd with rfl | hd
      · exact absurd hpoints d.not_pointsAt_self
      · exact absurd hpoints ((List.pairwise_cons.mp htail).1 d hd)

theorem TargetsFirst.acyclic (h : (all.map (·.name)).Nodup) (hfirst : TargetsFirst all) :
    Acyclic Entity.PointsAt all :=
  acyclic_of_pairwise Entity.not_pointsAt_self ((targetsFirst_iff_pairwise h).mp hfirst)

theorem targetsFirst_of_acyclic (h : (all.map (·.name)).Nodup)
    (hacyclic : Acyclic Entity.PointsAt all) : TargetsFirst (dependencyOrder all) := by
  refine (targetsFirst_iff_pairwise (nodup_dependencyOrder h)).mpr ?_
  exact (readyWhen_dependencies h).pairwise_arrange hacyclic h all.length [] (List.length_filter_le _ _)

theorem dependencyOrder_eq_self (h : (all.map (·.name)).Nodup) (hfirst : TargetsFirst all) :
    dependencyOrder all = all :=
  (readyWhen_dependencies h).arrange_eq Entity.not_pointsAt_self h (by simp [unplaced])
    ((targetsFirst_iff_pairwise h).mp hfirst)

/-- Entities with names of their own are put in order without losing one or taking one twice. Each
comes after all those that its relation fields point at exactly when no different entities point at
each other in a cycle, and entities that already stand so are left as they are. -/
theorem dependencyOrder_targetsFirst (h : (all.map (·.name)).Nodup) :
    (dependencyOrder all).Perm all
      ∧ (TargetsFirst (dependencyOrder all) ↔ Acyclic Entity.PointsAt all)
      ∧ (TargetsFirst all → dependencyOrder all = all) := by
  refine ⟨dependencyOrder_perm h, ⟨fun hfirst => ?_, targetsFirst_of_acyclic h⟩,
    dependencyOrder_eq_self h⟩
  exact (hfirst.acyclic (nodup_dependencyOrder h)).subset (dependencyOrder_perm h).symm.subset

/-- Comments answer each other and belong to posts, which have an author and a topic that is declared
nowhere. -/
def discussion : List Entity :=
  [⟨"comments", [.primary "id" .integer, .relation "answer_to" "comments" .integer,
      .relation "post_id" "posts" .integer], {}, rfl⟩,
    ⟨"posts", [.primary "id" .integer, .relation "author_id" "authors" .integer,
      .relation "topic_id" "topics" .integer], {}, rfl⟩,
    ⟨"authors", [.primary "id" .integer, .text "pen_name"], {}, rfl⟩]

theorem dependencyOrder_targetsFirst_discussion :
    (discussion.map (·.name)).Nodup ∧ Acyclic Entity.PointsAt discussion
      ∧ (dependencyOrder discussion).map (·.name) = ["authors", "posts", "comments"]
      ∧ (dependencyOrder discussion).Perm discussion ∧ TargetsFirst (dependencyOrder discussion)
      ∧ dependencyOrder discussion.reverse = discussion.reverse := by
  have h : (discussion.map (·.name)).Nodup := by decide
  have hreverse : (discussion.reverse.map (·.name)).Nodup := by decide
  have hpairwise : discussion.reverse.Pairwise fun e d => ¬e.PointsAt d := by decide
  have hacyclic : Acyclic Entity.PointsAt discussion :=
    (acyclic_of_pairwise Entity.not_pointsAt_self hpairwise).subset (by simp)
  obtain ⟨hperm, hfirst, -⟩ := dependencyOrder_targetsFirst h
  obtain ⟨-, -, hsame⟩ := dependencyOrder_targetsFirst hreverse
  exact ⟨h, hacyclic, by decide, hperm, hfirst.mpr hacyclic,
    hsame ((targetsFirst_iff_pairwise hreverse).mpr hpairwise)⟩

end Schema
end EntityMapper
