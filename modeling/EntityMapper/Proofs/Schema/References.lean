import EntityMapper.Proofs.Schema.Order

/-!
# Tables before those they point at

Live tables are dropped one by one, a table that points at another one before it. The main statement
says which tables can be counted on for that, in whatever order they are listed: those to which no cycle
of foreign keys leads. Where a cycle has to be broken, the first table that is left goes next, although
it need not be on the cycle.
-/

namespace EntityMapper.Schema

namespace LiveTable

/-- The table has a foreign key to another table. -/
def PointsAt (t p : LiveTable) : Prop := p.name ≠ t.name ∧ p.name ∈ t.references

instance decidablePointsAt (t p : LiveTable) : Decidable (t.PointsAt p) :=
  inferInstanceAs (Decidable (_ ∧ _))

/-- Another table has a foreign key to the table. -/
def IsTargetOf (p t : LiveTable) : Prop := t.PointsAt p

/-- A cycle of foreign keys between tables of the list leads to the table, which may be on it. -/
def LedToByCycle (all : List LiveTable) (t : LiveTable) : Prop :=
  ∃ c, Relation.TransGen (NeedsWithin PointsAt all) c c
    ∧ Relation.ReflTransGen (NeedsWithin PointsAt all) c t

end LiveTable

variable {all order : List LiveTable} {t p : LiveTable}

/-! ## What has to be dropped first -/

theorem needsWithin_swap :
    Function.swap (NeedsWithin LiveTable.PointsAt all) = NeedsWithin LiveTable.IsTargetOf all := by
  funext p t
  exact propext ⟨fun ⟨ht, hp, hpoints⟩ => ⟨hp, ht, hpoints⟩, fun ⟨hp, ht, hpoints⟩ => ⟨ht, hp, hpoints⟩⟩

theorem ledToByCycle_iff : t.LedToByCycle all ↔ Caught LiveTable.IsTargetOf all t := by
  unfold LiveTable.LedToByCycle Caught
  rw [← needsWithin_swap]
  refine exists_congr fun c => ?_
  rw [Relation.transGen_swap, Relation.reflTransGen_swap, and_comm]

theorem ledToByCycle_perm (h : order.Perm all) : t.LedToByCycle order ↔ t.LedToByCycle all := by
  have hwithin : NeedsWithin LiveTable.PointsAt order = NeedsWithin LiveTable.PointsAt all := by
    funext a b
    simp only [NeedsWithin, h.mem_iff]
  unfold LiveTable.LedToByCycle
  rw [hwithin]

theorem readyWhen_references :
    ReadyWhen LiveTable.name LiveTable.IsTargetOf all
      fun placed t => !isReferenced all placed t.name := by
  intro placed p _
  simp only [isReferenced, Bool.not_eq_true', List.any_eq_false, Bool.and_eq_true, bne_iff_ne,
    List.contains_iff_mem, LiveTable.IsTargetOf, LiveTable.PointsAt]
  constructor
  · intro hunreferenced t ht ⟨hne, href⟩
    by_contra hleft
    exact hunreferenced t ht ⟨⟨hne.symm, by simpa using hleft⟩, href⟩
  · rintro hplaced t ht ⟨⟨hne, hleft⟩, href⟩
    have hmem := hplaced t ht ⟨hne.symm, href⟩
    simp [hmem] at hleft

/-! ## Order -/

theorem before_dropOrder (h : (all.map (·.name)).Nodup) (ht : t ∈ all) (hp : p ∈ all)
    (hpoints : t.PointsAt p) (hsafe : ¬t.LedToByCycle all ∨ Before all t p) :
    Before (dropOrder all) t p := by
  rw [ledToByCycle_iff] at hsafe
  have hne : t ≠ p := fun hsame => hpoints.1 (hsame ▸ rfl)
  exact readyWhen_references.before_arrange h hpoints hne hsafe all.length [] (List.length_filter_le _ _)
    (by simpa [unplaced] using hp) (by simpa [unplaced] using ht)

/-- A table that is listed first of all comes before those to which a cycle leads. -/
theorem before_dropOrder_of_cycle (h : ((p :: all).map (·.name)).Nodup) (ht : t ∈ p :: all)
    (hpoints : t.PointsAt p) (hcycle : t.LedToByCycle (p :: all)) :
    Before (dropOrder (p :: all)) p t := by
  rw [ledToByCycle_iff] at hcycle
  have hne : t ≠ p := fun hsame => hpoints.1 (hsame ▸ rfl)
  have hp : Caught LiveTable.IsTargetOf (p :: all) p := by
    obtain ⟨c, hway, hc⟩ := hcycle
    exact ⟨c, hway.head ⟨List.mem_cons_self, ht, hpoints⟩, hc⟩
  exact readyWhen_references.before_arrange_of_caught h rfl hp hcycle hne _ []
    (List.length_filter_le _ _) (by simp) ht

/-- Each table of the list is dropped once. A table is dropped before another one that it points at
when it is listed before it; and it is in every order of the list exactly when no cycle of foreign keys
leads to it, whatever cycles there are elsewhere. -/
theorem dropOrder_pointingFirst (h : (all.map (·.name)).Nodup) :
    (dropOrder all).Perm all
      ∧ ∀ t ∈ all, ∀ p ∈ all, t.PointsAt p →
        (Before all t p → Before (dropOrder all) t p)
          ∧ ((∀ order, order.Perm all → Before (dropOrder order) t p) ↔ ¬t.LedToByCycle all) := by
  refine ⟨dropOrder_perm h, fun t ht p hp hpoints => ⟨fun hlisted => ?_, fun hbefore hcycle => ?_,
    fun hfree order horder => ?_⟩⟩
  · exact before_dropOrder h ht hp hpoints (.inr hlisted)
  · -- Listed first of all, the table that is pointed at is dropped first.
    have hperm := (Keyed.perm_cons_filter h hp).symm
    have hdistinct := (hperm.map (·.name)).nodup_iff.mpr h
    have hswapped := before_dropOrder_of_cycle hdistinct (hperm.mem_iff.mpr ht) hpoints
      ((ledToByCycle_perm hperm).mpr hcycle)
    have hnodup := (dropOrder_perm hdistinct).nodup_iff.mpr (List.Nodup.of_map _ hdistinct)
    exact (hbefore _ hperm).not_swap hnodup hswapped
  · exact before_dropOrder ((horder.map (·.name)).nodup_iff.mpr h) (horder.mem_iff.mpr ht)
      (horder.mem_iff.mpr hp) hpoints (.inl fun hcycle => hfree ((ledToByCycle_perm horder).mp hcycle))

/-! ## A cycle next to a chain -/

/-- A table with nothing but foreign keys to these tables. -/
def LiveTable.pointing (name : String) (references : List String) : LiveTable :=
  ⟨name, ["id"], [], references⟩

/-- Comments on posts by authors. -/
def authorsTable : LiveTable := .pointing "authors" []

def postsTable : LiveTable := .pointing "posts" ["authors"]

/-- Drafts have an author and a latest review, and each review is of a draft. -/
def draftsTable : LiveTable := .pointing "drafts" ["authors", "reviews"]

def reviewsTable : LiveTable := .pointing "reviews" ["drafts"]

theorem draftsTable_ledToByCycle (hdrafts : draftsTable ∈ all) (hreviews : reviewsTable ∈ all) :
    draftsTable.LedToByCycle all := by
  refine ⟨draftsTable, .head (b := reviewsTable) ⟨hdrafts, hreviews, by decide⟩ ?_, .refl⟩
  exact .single ⟨hreviews, hdrafts, by decide⟩

theorem dropOrder_pointingFirst_drafts :
    let all := [authorsTable, postsTable, reviewsTable, draftsTable]
    (all.map (·.name)).Nodup ∧ postsTable.PointsAt authorsTable ∧ draftsTable.PointsAt authorsTable
      ∧ draftsTable.LedToByCycle all ∧ ¬postsTable.LedToByCycle all
      ∧ (dropOrder all).Perm all
      ∧ (∀ order, order.Perm all → Before (dropOrder order) postsTable authorsTable)
      ∧ ¬∀ order, order.Perm all → Before (dropOrder order) draftsTable authorsTable := by
  intro all
  have h : (all.map (·.name)).Nodup := by decide
  have hcycle : draftsTable.LedToByCycle all := draftsTable_ledToByCycle (by simp [all]) (by simp [all])
  have hfree : ¬postsTable.LedToByCycle all := by
    intro hled
    obtain ⟨t, ht, hpoints, -⟩ := (ledToByCycle_iff.mp hled).exists_needed
    have hnone : ∀ t ∈ all, ¬t.PointsAt postsTable := by decide
    exact hnone t ht hpoints
  obtain ⟨hperm, hpairs⟩ := dropOrder_pointingFirst h
  obtain ⟨-, hposts⟩ := hpairs postsTable (by simp [all]) authorsTable (by simp [all]) (by decide)
  obtain ⟨-, hdrafts⟩ := hpairs draftsTable (by simp [all]) authorsTable (by simp [all]) (by decide)
  exact ⟨h, by decide, by decide, hcycle, hfree, hperm, hposts.mpr hfree,
    fun hall => hdrafts.mp hall hcycle⟩

/-- A table that is on no cycle is dropped before one that points at it, when it is listed first. -/
theorem authors_dropped_under_drafts :
    let all := [authorsTable, draftsTable, reviewsTable]
    (all.map (·.name)).Nodup ∧ draftsTable.PointsAt authorsTable
      ∧ ¬Relation.TransGen (NeedsWithin LiveTable.PointsAt all) authorsTable draftsTable
      ∧ dropOrder all = [authorsTable, draftsTable, reviewsTable]
      ∧ ¬Before (dropOrder all) draftsTable authorsTable := by
  refine ⟨by decide, by decide, fun hback => ?_, by decide, ?_⟩
  · obtain ⟨t, ⟨-, -, -, href⟩, -⟩ := Relation.TransGen.head'_iff.mp hback
    cases href
  · unfold Before
    decide

end EntityMapper.Schema
