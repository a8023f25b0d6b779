import EntityMapper.Proofs.Catalog.Names
import EntityMapper.Proofs.Dict
import EntityMapper.Proofs.Engine.Levels
import Mathlib.Data.List.Nodup

/-!
# Stitching row by row

Related rows are given out through tables: the row of each key, the group of each key, or the keys
that a junction links. The outcome is that of two nested loops, which for each row go through all
related rows and take those that belong to it.
-/

namespace EntityMapper.Stitching

/-! ## Two nested loops -/

def sameKey (a b : Option Json) : Bool :=
  match a, b with
  | some a, some b => keyText a == keyText b
  | _, _ => false

/-- Whether a related row belongs to a row: it has the row's key, or one row of the junction holds the
keys of both. -/
def isRelated (p : Path) (pairs : List Row) (row other : Row) : Bool :=
  match p.junction with
  | none => sameKey (row.get? p.ourKey) (other.get? p.theirKey)
  | some j => pairs.any fun pair =>
      sameKey (row.get? p.ourKey) (pair.get? j.ourKey)
        && sameKey (other.get? p.theirKey) (pair.get? j.theirKey)

def relatedRows (p : Path) (pairs : List Row) (f : Fetched) (row : Row) : List Row :=
  f.rows.filter (isRelated p pairs row)

/-- What a row is given: the related row or null, or the page of the related rows. -/
def share (p : Path) (level : QueryLevel) (pairs : List Row) (f : Fetched) (row : Row) : Json :=
  let related := (relatedRows p pairs f row).map f.strip
  match p.direction with
  | .toOne => related.head?.getD .null
  | _ => page level related

/-- The keys in a column, as text. -/
def keyTexts (column : String) (rows : List Row) : List String :=
  (columnValues column rows).map keyText

variable {p : Path} {level : QueryLevel} {f : Fetched} {rows : List Row} {column t : String}

theorem keyTexts_cons (row : Row) (rows : List Row) :
    keyTexts column (row :: rows)
      = ((row.get? column).map keyText).toList ++ keyTexts column rows := by
  unfold keyTexts columnValues
  cases hrow : row.get? column <;> simp [hrow]

theorem mem_keyTexts {row : Row} {key : Json} (hrow : row ∈ rows)
    (hkey : row.get? column = some key) : keyText key ∈ keyTexts column rows :=
  List.mem_map_of_mem (List.mem_filterMap.mpr ⟨row, hrow, hkey⟩)

/-! ## Keys -/

/-- What has been seen of some values: the text of each of them that is not null, and one value for
each text. -/
structure Seen (vs : List Json) (seen : List String × List Json) : Prop where
  texts : seen.1.reverse = seen.2.map keyText
  nodup : seen.1.Nodup
  found : ∀ v ∈ vs, v.isNull = false → keyText v ∈ seen.1
  given : ∀ v ∈ seen.2, v ∈ vs ∧ v.isNull = false

theorem Seen.step {vs : List Json} {seen : List String × List Json} (h : Seen vs seen) (v : Json) :
    Seen (vs ++ [v]) (if v.isNull || seen.1.contains (keyText v) then seen
      else (keyText v :: seen.1, seen.2 ++ [v])) := by
  split
  · rename_i hskip
    refine ⟨h.texts, h.nodup, ?_, fun w hw => ?_⟩
    · intro w hw hnull
      rcases List.mem_append.mp hw with hw | hw
      · exact h.found w hw hnull
      · obtain rfl := List.mem_singleton.mp hw
        simpa [hnull] using hskip
    · obtain ⟨hmem, hnull⟩ := h.given w hw
      exact ⟨List.mem_append_left _ hmem, hnull⟩
  · rename_i hnew
    simp only [Bool.or_eq_true, List.contains_iff_mem, not_or, Bool.not_eq_true] at hnew
    refine ⟨by simp [h.texts], List.nodup_cons.mpr ⟨hnew.2, h.nodup⟩, ?_, ?_⟩
    · intro w hw hnull
      rcases List.mem_append.mp hw with hw | hw
      · exact List.mem_cons_of_mem _ (h.found w hw hnull)
      · obtain rfl := List.mem_singleton.mp hw
        exact List.mem_cons_self
    · intro w hw
      rcases List.mem_append.mp hw with hw | hw
      · obtain ⟨hmem, hnull⟩ := h.given w hw
        exact ⟨List.mem_append_left _ hmem, hnull⟩
      · obtain rfl := List.mem_singleton.mp hw
        exact ⟨by simp, hnew.1⟩

theorem Seen.foldl {vs : List Json} {seen : List String × List Json} (h : Seen vs seen)
    (more : List Json) :
    Seen (vs ++ more) (more.foldl (fun (seen : List String × List Json) v =>
      if v.isNull || seen.1.contains (keyText v) then seen
      else (keyText v :: seen.1, seen.2 ++ [v])) seen) := by
  induction more generalizing vs seen with
  | nil => simpa using h
  | cons v more ih =>
    have hall := ih (h.step v)
    rwa [List.append_assoc, List.singleton_append] at hall

/-- The distinct keys are those of the values that are not null, and no two of them are the same. -/
theorem distinctKeys_spec (vs : List Json) :
    ((distinctKeys vs).map keyText).Nodup
      ∧ (∀ v ∈ vs, v.isNull = false → keyText v ∈ (distinctKeys vs).map keyText)
      ∧ ∀ v ∈ distinctKeys vs, v ∈ vs ∧ v.isNull = false := by
  have hempty : Seen [] ([], []) := ⟨rfl, List.nodup_nil, by simp, by simp⟩
  have hseen := hempty.foldl vs
  rw [List.nil_append] at hseen
  unfold distinctKeys
  refine ⟨?_, ?_, hseen.given⟩
  · rw [← hseen.texts, List.nodup_reverse]
    exact hseen.nodup
  · intro v hv hnull
    rw [← hseen.texts, List.mem_reverse]
    exact hseen.found v hv hnull

/-! ## One related row -/

theorem keyed_fst (column : String) (rows : List Row) :
    (keyed column rows).map Prod.fst = keyTexts column rows := by
  unfold keyed keyTexts columnValues
  rw [List.map_filterMap, List.map_filterMap]
  congr 1
  funext row
  cases row.get? column <;> rfl

/-- The entries of a key are the rows that have it. -/
theorem filter_keyed {α : Type} (g : Row → α) (key : Json) :
    ((keyed column rows).filter (·.1 == keyText key)).map (fun entry => g entry.2)
      = (rows.filter fun row => sameKey (some key) (row.get? column)).map g := by
  unfold keyed
  induction rows with
  | nil => rfl
  | cons row rest ih =>
    cases hrow : row.get? column with
    | none => simp [hrow, sameKey, ih]
    | some v =>
      by_cases hsame : keyText v = keyText key
      · simp [hrow, sameKey, hsame, ih]
      · simp [hrow, sameKey, hsame, Ne.symm hsame, ih]

/-- When no two entries have one key, the last entry of a key is the first. -/
theorem find?_reverse {α : Type} {entries : List (String × α)} (h : (entries.map Prod.fst).Nodup) :
    entries.reverse.find? (·.1 == t) = entries.find? (·.1 == t) := by
  induction entries with
  | nil => rfl
  | cons first rest ih =>
    rw [List.map_cons, List.nodup_cons] at h
    rw [List.reverse_cons, List.find?_append, ih h.2]
    by_cases hfirst : first.1 = t
    · have hrest : rest.find? (·.1 == t) = none := by
        rw [List.find?_eq_none]
        intro entry hentry hsame
        rw [beq_iff_eq] at hsame
        exact h.1 (List.mem_map.mpr ⟨entry, hentry, hsame.trans hfirst.symm⟩)
      simp [hrest, hfirst]
    · simp [hfirst]

theorem stitchOne_eq (hj : p.junction = none) (hone : p.direction = .toOne)
    (htheirs : (keyTexts p.theirKey f.rows).Nodup) :
    stitchOne p f rows = rows.map fun row => row.insert p.name (share p level [] f row) := by
  unfold stitchOne
  refine List.map_congr_left fun row _ => ?_
  dsimp only
  congr 1
  unfold share relatedRows isRelated
  rw [hj, hone]
  dsimp only
  cases hrow : row.get? p.ourKey with
  | none =>
    have hnone : f.rows.filter (fun other => sameKey none (other.get? p.theirKey)) = [] := by
      rw [List.filter_eq_nil_iff]
      simp [sameKey]
    rw [hnone]
    rfl
  | some key =>
    rw [Option.bind_some, Dict.get?_ofList, find?_reverse (by rwa [keyed_fst]), ← filter_keyed f.strip,
      List.head?_map, List.head?_filter, Option.map_map]
    rfl

/-! ## Groups -/

theorem page_rows (row : Row) (key : Json) (hkey : row.get? p.ourKey = some key)
    (hj : p.junction = none) :
    ((Dict.group ((keyed p.theirKey f.rows).map fun entry => (entry.1, f.strip entry.2))).get?
        (keyText key)).getD [] = (relatedRows p [] f row).map f.strip := by
  unfold relatedRows isRelated
  rw [Dict.get?_group, hj, hkey, ← filter_keyed f.strip, List.filter_map, List.map_map]
  rfl

/-- As long as no key comes twice, each row finds its group as it was at the beginning. -/
theorem giveGroups_eq {groups : Dict (List Json)} {given : Row → List Json}
    (hours : (keyTexts p.ourKey rows).Nodup)
    (hgroups : ∀ row ∈ rows, ∀ key, row.get? p.ourKey = some key →
      (groups.get? (keyText key)).getD [] = given row)
    (hnone : ∀ row ∈ rows, row.get? p.ourKey = none → given row = []) :
    giveGroups p level groups rows = rows.map fun row => row.insert p.name (page level (given row)) := by
  induction rows generalizing groups with
  | nil => rfl
  | cons row rest ih =>
    have hrest : ∀ other ∈ rest, other ∈ row :: rest := fun _ => List.mem_cons_of_mem _
    rw [keyTexts_cons] at hours
    unfold giveGroups
    cases hrow : row.get? p.ourKey with
    | none =>
      rw [hrow] at hours
      dsimp only
      rw [List.map_cons, hnone row List.mem_cons_self hrow, ih hours
        (fun other hother => hgroups other (hrest other hother))
        fun other hother => hnone other (hrest other hother)]
    | some key =>
      rw [hrow, Option.map_some, Option.toList_some, List.singleton_append, List.nodup_cons] at hours
      dsimp only
      rw [List.map_cons, hgroups row List.mem_cons_self key hrow, ih hours.2 ?_
        fun other hother => hnone other (hrest other hother)]
      intro other hother key' hkey'
      have hne : keyText key' ≠ keyText key := by
        intro hsame
        exact hours.1 (hsame ▸ mem_keyTexts hother hkey')
      -- The group that was taken away is not the one this row asks for.
      rw [Dict.get?_erase, if_neg hne]
      exact hgroups other (hrest other hother) key' hkey'

theorem relatedRows_eq_nil {pairs : List Row} {row : Row} (h : row.get? p.ourKey = none) :
    relatedRows p pairs f row = [] := by
  unfold relatedRows
  rw [List.filter_eq_nil_iff]
  intro other _
  unfold isRelated
  rw [h]
  split <;> simp [sameKey]

theorem stitchMany_eq (hj : p.junction = none) (hmany : p.direction ≠ .toOne)
    (hours : (keyTexts p.ourKey rows).Nodup) :
    stitchMany p level f rows = rows.map fun row => row.insert p.name (share p level [] f row) := by
  have hshare : ∀ row, share p level [] f row = page level ((relatedRows p [] f row).map f.strip) := by
    intro row
    unfold share
    cases hdir : p.direction with
    | toOne => exact absurd hdir hmany
    | toMany | manyToMany => rfl
  unfold stitchMany
  simp only [hshare]
  apply giveGroups_eq hours
  · intro row _ key hkey
    exact page_rows row key hkey hj
  · intro row _ hnone
    rw [relatedRows_eq_nil hnone, List.map_nil]

/-! ## Junctions -/

theorem mem_links {j : Junction} {pairs : List Row} {ours : Json} {theirs : String} :
    theirs ∈ ((links j pairs).get? (keyText ours)).getD []
      ↔ ∃ pair ∈ pairs, sameKey (some ours) (pair.get? j.ourKey) = true
        ∧ (pair.get? j.theirKey).map keyText = some theirs := by
  unfold links
  rw [Dict.get?_group]
  simp only [List.mem_map, List.mem_filter, List.mem_filterMap, beq_iff_eq, Prod.exists]
  constructor
  · rintro ⟨a, b, ⟨⟨pair, hpair, hentry⟩, rfl⟩, rfl⟩
    refine ⟨pair, hpair, ?_⟩
    cases hours : pair.get? j.ourKey <;> cases htheirs : pair.get? j.theirKey <;>
      simp_all [sameKey]
  · rintro ⟨pair, hpair, hours, htheirs⟩
    refine ⟨keyText ours, theirs, ⟨⟨pair, hpair, ?_⟩, rfl⟩, rfl⟩
    cases hours' : pair.get? j.ourKey <;> cases htheirs' : pair.get? j.theirKey <;>
      simp_all [sameKey]

theorem filter_links {j : Junction} {pairs : List Row} {row : Row} {key : Json}
    (hj : p.junction = some j) (hkey : row.get? p.ourKey = some key) :
    f.rows.filter (hasKeyAmong p.theirKey (((links j pairs).get? (keyText key)).getD []))
      = relatedRows p pairs f row := by
  unfold relatedRows
  refine List.filter_congr fun other _ => ?_
  rw [Bool.eq_iff_iff]
  unfold isRelated hasKeyAmong
  rw [hj, hkey]
  cases hother : other.get? p.theirKey with
  | none => simp [sameKey]
  | some theirs =>
    simp only [List.contains_iff_mem, mem_links, List.any_eq_true, Bool.and_eq_true]
    refine exists_congr fun pair => and_congr_right fun _ => and_congr_right fun _ => ?_
    cases pair.get? j.theirKey with
    | none => simp [sameKey]
    | some v =>
      rw [Option.map_some, Option.some.injEq, eq_comm]
      simp [sameKey]

theorem stitchLinked_eq {j : Junction} {pairs : List Row} (hj : p.junction = some j)
    (hmany : p.direction = .manyToMany) :
    stitchLinked p j level pairs f rows
      = rows.map fun row => row.insert p.name (share p level pairs f row) := by
  unfold stitchLinked
  refine List.map_congr_left fun row _ => ?_
  dsimp only
  congr 1
  unfold share
  rw [hmany]
  dsimp only
  cases hrow : row.get? p.ourKey with
  | none =>
    rw [relatedRows_eq_nil hrow]
    rfl
  | some key =>
    rw [← filter_links hj hrow, Option.bind_some]
    cases (links j pairs).get? (keyText key) with
    | some theirs => rfl
    | none =>
      have hnone : f.rows.filter (hasKeyAmong p.theirKey []) = [] := by
        rw [List.filter_eq_nil_iff]
        intro other _
        unfold hasKeyAmong
        split <;> simp
      rw [Option.getD_none, hnone]
      rfl

/-! ## Every related row once -/

theorem filter_or_perm {α : Type} {q r : α → Bool} {as : List α}
    (h : ∀ a ∈ as, q a = true → r a = true → False) :
    (as.filter fun a => q a || r a).Perm (as.filter q ++ as.filter r) := by
  induction as with
  | nil => exact .nil
  | cons a as ih =>
    have hrest := ih fun b hb => h b (List.mem_cons_of_mem _ hb)
    have ha := h a List.mem_cons_self
    cases hq : q a with
    | true =>
      have hr : r a = false := by simpa [hq] using ha
      simpa [hq, hr] using hrest
    | false =>
      cases hr : r a with
      | true => simpa [hq, hr] using (hrest.cons a).trans List.perm_middle.symm
      | false => simpa [hq, hr] using hrest

theorem sameKey_some {a b : Option Json} (h : sameKey a b = true) :
    ∃ key other, a = some key ∧ b = some other ∧ keyText key = keyText other := by
  unfold sameKey at h
  split at h
  · exact ⟨_, _, rfl, rfl, by simpa using h⟩
  · cases h

/-- No two rows have a related row in common when their keys differ. -/
theorem relatedRows_perm (hj : p.junction = none) (hours : (keyTexts p.ourKey rows).Nodup) :
    (rows.flatMap (relatedRows p [] f)).Perm
      (f.rows.filter fun other => rows.any fun row => isRelated p [] row other) := by
  induction rows with
  | nil => simp
  | cons row rest ih =>
    rw [keyTexts_cons] at hours
    simp only [List.flatMap_cons, List.any_cons]
    refine .trans ?_ (filter_or_perm ?_).symm
    · exact (ih (List.nodup_append.mp hours).2.1).append_left _
    · intro other _ hrow hrest
      obtain ⟨row', hrow', hother⟩ := List.any_eq_true.mp hrest
      unfold isRelated at hrow hother
      rw [hj] at hrow hother
      obtain ⟨key, theirs, hkey, htheirs, hsame⟩ := sameKey_some hrow
      obtain ⟨key', theirs', hkey', htheirs', hsame'⟩ := sameKey_some hother
      obtain rfl : theirs = theirs' := Option.some.inj (htheirs.symm.trans htheirs')
      rw [hkey, Option.map_some, Option.toList_some, List.singleton_append, List.nodup_cons] at hours
      apply hours.1
      rw [hsame, ← hsame']
      exact mem_keyTexts hrow' hkey'

end EntityMapper.Stitching

namespace EntityMapper.Engine

open Stitching

variable {m : Engine} {e related : Entity} {name : String} {p : Path} {rows : List Row}
  {load : Entity → String → List Json → Call Fetched}

/-- A way of a catalog leads to one row by its primary key, to the rows that hold our key, or through
a junction. -/
theorem path_cases (hp : m.path e name = .ok p) (hrelated : m.catalog.entity p.related = .ok related) :
    (p.direction = .toOne ∧ p.junction = none ∧ p.theirKey = related.primary.name)
      ∨ (p.direction = .toMany ∧ p.junction = none)
      ∨ p.direction = .manyToMany ∧ ∃ j, p.junction = some j := by
  have hentity := Catalog.entity?_of_entity hrelated
  obtain ⟨-, r, -, source, target, -, htarget, hway⟩ := Catalog.relation?_cases (relation?_of_path hp)
  rcases hway with ⟨-, rfl⟩ | ⟨-, rfl⟩
  · unfold Relation.pathFromSource at hentity ⊢
    cases hkind : r.kind
    · simp only [hkind] at hentity
      rw [htarget] at hentity
      obtain rfl := Option.some.inj hentity
      exact .inl ⟨rfl, rfl, rfl⟩
    · exact .inr (.inr ⟨rfl, _, rfl⟩)
  · unfold Relation.pathFromTarget
    cases r.kind
    · exact .inr (.inl ⟨rfl, rfl⟩)
    · exact .inr (.inr ⟨rfl, _, rfl⟩)

/-- What is loaded for rows: nothing when none of them has a key, else the related rows, after the
pairs of the junction if there is one. -/
inductive Loads (m : Engine) (p : Path) (related : Entity)
    (load : Entity → String → List Json → Call Fetched) (rows : List Row) (x : Exchange) :
    List Row → Fetched → Exchange → Prop where
  | nothing {f : Fetched} (hkeys : distinctKeys (columnValues p.ourKey rows) = [])
    (hf : f.rows = []) : Loads m p related load rows x [] f x
  | related {f : Fetched} {y : Exchange} (hkeys : distinctKeys (columnValues p.ourKey rows) ≠ [])
    (hj : p.junction = none)
    (h : (load related p.theirKey (distinctKeys (columnValues p.ourKey rows))).on x = (.ok f, y)) :
    Loads m p related load rows x [] f y
  | linked {j : Junction} {pairs : List Row} {f : Fetched} {y z : Exchange}
    (hkeys : distinctKeys (columnValues p.ourKey rows) ≠ []) (hj : p.junction = some j)
    (hpairs : (m.fetchPairs j (distinctKeys (columnValues p.ourKey rows))).on x = (.ok pairs, y))
    (h : (load related p.theirKey (distinctKeys (columnValues j.theirKey pairs))).on y = (.ok f, z)) :
    Loads m p related load rows x pairs f z

theorem attach_nothing (level : QueryLevel) (x : Exchange)
    (hrelated : m.catalog.entity p.related = .ok related)
    (hkeys : distinctKeys (columnValues p.ourKey rows) = []) :
    (m.attach p level load rows).on x = (.ok (rows.map fun row => row.insert p.name (nothing p)), x) := by
  unfold attach
  rw [hrelated, Call.on_bind_ok (Call.on_ofExcept_ok related x)]
  dsimp only
  rw [hkeys]
  rfl

theorem share_nothing {level : QueryLevel} {pairs : List Row} {f : Fetched} (hf : f.rows = []) (row : Row) :
    share p level pairs f row = nothing p := by
  unfold share relatedRows nothing
  rw [hf]
  cases p.direction <;> simp [page]

/-- Giving rows their related rows comes to what two nested loops do with the rows that are loaded,
when no two rows of a to-many relation have the same key and no two rows that a to-one relation leads
to have the same primary key. Of a to-many relation every related row that belongs to some row goes to
one row, and the related rows are asked for by the keys of all rows. -/
theorem attach_eq_loops (hp : m.path e name = .ok p)
    (hrelated : m.catalog.entity p.related = .ok related) (level : QueryLevel) {x y : Exchange}
    {pairs : List Row} {f : Fetched} (hloads : Loads m p related load rows x pairs f y)
    (hours : p.direction = .toMany → (keyTexts p.ourKey rows).Nodup)
    (htheirs : p.direction = .toOne → (keyTexts related.primary.name f.rows).Nodup) :
    (m.attach p level load rows).on x
        = (.ok (rows.map fun row => row.insert p.name (share p level pairs f row)), y)
      ∧ (p.direction = .toMany → (rows.flatMap (relatedRows p pairs f)).Perm
          (f.rows.filter fun other => rows.any fun row => isRelated p pairs row other))
      ∧ ∀ row ∈ rows, ∀ key, row.get? p.ourKey = some key → key.isNull = false →
          keyText key ∈ (distinctKeys (columnValues p.ourKey rows)).map keyText := by
  have hasked : ∀ row ∈ rows, ∀ key, row.get? p.ourKey = some key → key.isNull = false →
      keyText key ∈ (distinctKeys (columnValues p.ourKey rows)).map keyText := by
    intro row hrow key hkey hnull
    have hmem : key ∈ columnValues p.ourKey rows := List.mem_filterMap.mpr ⟨row, hrow, hkey⟩
    exact (distinctKeys_spec _).2.1 key hmem hnull
  have hperm : p.direction = .toMany → p.junction = none → (rows.flatMap (relatedRows p [] f)).Perm
      (f.rows.filter fun other => rows.any fun row => isRelated p [] row other) :=
    fun hmany hj => relatedRows_perm hj (hours hmany)
  have hcases := path_cases hp hrelated
  cases hloads with
  | nothing hkeys hf =>
    refine ⟨?_, ?_, hasked⟩
    · simp only [share_nothing hf]
      exact attach_nothing level x hrelated hkeys
    · intro hmany
      rcases hcases with ⟨hdir, -⟩ | ⟨-, hj⟩ | ⟨hdir, -⟩
      · simp [hdir] at hmany
      · exact hperm hmany hj
      · simp [hdir] at hmany
  | related hkeys hj h =>
    have hempty : (distinctKeys (columnValues p.ourKey rows)).isEmpty = false := by simpa using hkeys
    refine ⟨?_, fun hmany => hperm hmany hj, hasked⟩
    unfold attach
    rw [hrelated, Call.on_bind_ok (Call.on_ofExcept_ok related x)]
    dsimp only
    rw [hempty, hj]
    rcases hcases with ⟨hdir, -, hkey⟩ | ⟨hdir, -⟩ | ⟨-, j, hsome⟩
    · rw [hdir]
      dsimp only
      rw [← stitchOne_eq hj hdir (hkey ▸ htheirs hdir)]
      exact Call.on_bind_ok h
    · rw [hdir]
      dsimp only
      rw [← stitchMany_eq hj (by simp [hdir]) (hours hdir)]
      exact Call.on_bind_ok h
    · rw [hj] at hsome
      cases hsome
  | linked hkeys hj hpairs h =>
    have hempty : (distinctKeys (columnValues p.ourKey rows)).isEmpty = false := by simpa using hkeys
    rcases hcases with ⟨-, hnone, -⟩ | ⟨-, hnone⟩ | ⟨hdir, -⟩
    · rw [hj] at hnone
      cases hnone
    · rw [hj] at hnone
      cases hnone
    · refine ⟨?_, by simp [hdir], hasked⟩
      unfold attach
      rw [hrelated, Call.on_bind_ok (Call.on_ofExcept_ok related x)]
      dsimp only
      rw [hempty, hj, hdir]
      dsimp only
      rw [← stitchLinked_eq hj hdir]
      exact (Call.on_bind_ok hpairs).trans (Call.on_bind_ok h)

theorem attach_eq_loops_posts :
    let m : Engine := { catalog := Catalog.library, randomKeys := fun _ => "" }
    let p : Path := ⟨"posts", .toMany, "posts", "id", "author_id", none⟩
    let level : QueryLevel := { limit := 1, offset := 1 }
    let rows : List Row := [[("id", .int 1)], [("id", .int 2)], [("id", .null)], []]
    let f : Fetched := {
      rows := [[("author_id", .int 2), ("id", .int 5)], [("author_id", .int 1), ("id", .int 6)],
        [("author_id", .int 2), ("id", .int 7)]]
      command := .count (.of Catalog.authoredPosts) []
      extra := ["author_id"] }
    let load := fun (_ : Entity) (_ : String) (_ : List Json) => (pure f : Call Fetched)
    m.path Catalog.authors "posts" = .ok p
      ∧ m.catalog.entity p.related = .ok Catalog.authoredPosts
      ∧ Loads m p Catalog.authoredPosts load rows {} [] f {}
      ∧ (keyTexts p.ourKey rows).Nodup
      ∧ (m.attach p level load rows).on {}
        = (.ok [[("id", .int 1), ("posts", .arr [])],
            [("id", .int 2), ("posts", .arr [.obj [("id", .int 7)]])],
            [("id", .null), ("posts", .arr [])], [("posts", .arr [])]], {}) := by
  intro m p level rows f load
  have hp : m.path Catalog.authors "posts" = .ok p := rfl
  have hrelated : m.catalog.entity p.related = .ok Catalog.authoredPosts := rfl
  have hkeys : distinctKeys (columnValues p.ourKey rows) ≠ [] := by
    intro hnone
    have hlength : (distinctKeys (columnValues p.ourKey rows)).length = 2 := by decide +kernel
    simp [hnone] at hlength
  have hloads : Loads m p Catalog.authoredPosts load rows {} [] f {} := .related hkeys rfl rfl
  have hours : (keyTexts p.ourKey rows).Nodup := by decide +kernel
  have hattach := attach_eq_loops hp hrelated level hloads (fun _ => hours) nofun
  have hshares : (rows.map fun row => row.insert p.name (share p level [] f row))
      = [[("id", .int 1), ("posts", .arr [])],
          [("id", .int 2), ("posts", .arr [.obj [("id", .int 7)]])],
          [("id", .null), ("posts", .arr [])], [("posts", .arr [])]] := by cbv
  exact ⟨hp, hrelated, hloads, hours, hshares ▸ hattach.1⟩

end EntityMapper.Engine
