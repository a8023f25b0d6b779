import EntityMapper.Proofs.Schema.Live
import EntityMapper.Schema.Change

/-!
# What changes make of a schema

Changes that create no table leave each table of a schema as it is, revise it, or drop it, and do so
table by table. The columns and the indexes of a table are amended in the same way: a change drops
some of them and adds at most one.
-/

namespace EntityMapper.Schema

/-! ## Amended lists -/

section Amend

variable {γ β : Type} {keeps : γ → β → Bool} {adds : γ → Option β} {steps : List γ}
  {items : List β} {x : β}

/-- Each step drops the items that it does not keep, and adds at most one at the end. -/
def amend (keeps : γ → β → Bool) (adds : γ → Option β) (steps : List γ) (items : List β) : List β :=
  steps.foldl (fun items c => items.filter (keeps c) ++ (adds c).toList) items

theorem amend_cons (c : γ) : amend keeps adds (c :: steps) items
    = amend keeps adds steps (items.filter (keeps c) ++ (adds c).toList) := rfl

/-- What is there in the end was kept by every step, or was added. -/
theorem amend_sublist : (amend keeps adds steps items).Sublist
    (items.filter (fun x => steps.all (keeps · x)) ++ steps.filterMap adds) := by
  induction steps generalizing items with
  | nil =>
    have hall : items.filter (fun x => ([] : List γ).all (keeps · x)) = items :=
      List.filter_eq_self.mpr fun _ _ => rfl
    rw [hall, List.filterMap_nil, List.append_nil]
    exact .refl items
  | cons c rest ih =>
    have hadds : (c :: rest).filterMap adds = (adds c).toList ++ rest.filterMap adds := by
      cases h : adds c <;> simp [h]
    have hkept : (items.filter (keeps c)).filter (fun x => rest.all (keeps · x))
        = items.filter (fun x => (c :: rest).all (keeps · x)) := by
      rw [List.filter_filter]
      apply List.filter_congr
      intro x _
      rw [List.all_cons, Bool.and_comm]
    rw [amend_cons]
    refine ih.trans ?_
    rw [List.filter_append, hkept, hadds, List.append_assoc]
    exact (List.Sublist.refl _).append (List.filter_sublist.append (.refl _))

theorem mem_of_mem_amend (h : x ∈ amend keeps adds steps items) :
    (x ∈ items ∧ ∀ c ∈ steps, keeps c x = true) ∨ ∃ c ∈ steps, adds c = some x := by
  have hmem := amend_sublist.subset h
  simpa using hmem

theorem mem_amend_of_kept (hx : x ∈ items) (h : ∀ c ∈ steps, keeps c x = true) :
    x ∈ amend keeps adds steps items := by
  induction steps generalizing items with
  | nil => exact hx
  | cons c rest ih =>
    rw [amend_cons]
    apply ih
    · have hkept : x ∈ items.filter (keeps c) := List.mem_filter.mpr ⟨hx, h c List.mem_cons_self⟩
      exact List.mem_append_left _ hkept
    · exact fun c' hc' => h c' (List.mem_cons_of_mem _ hc')

/-- What is added stays, if every step that drops it comes before one that adds it. -/
theorem mem_amend_of_added (hx : ∃ c ∈ steps, adds c = some x)
    (h : ∀ before c after, steps = before ++ c :: after → keeps c x = false →
      ∃ c' ∈ after, adds c' = some x) :
    x ∈ amend keeps adds steps items := by
  induction steps generalizing items with
  | nil => simp at hx
  | cons c rest ih =>
    rw [amend_cons]
    have hrest : ∀ before c' after, rest = before ++ c' :: after → keeps c' x = false →
        ∃ c'' ∈ after, adds c'' = some x := by
      intro before c' after hsplit
      exact h (c :: before) c' after (by rw [hsplit, List.cons_append])
    by_cases hlater : ∃ c' ∈ rest, adds c' = some x
    · exact ih hlater hrest
    -- the first step adds it, and no later step can drop it
    have hfirst : adds c = some x := by
      obtain ⟨c', hc', hadds⟩ := hx
      rcases List.mem_cons.mp hc' with rfl | hc'
      · exact hadds
      · exact (hlater ⟨c', hc', hadds⟩).elim
    apply mem_amend_of_kept
    · rw [hfirst]
      simp
    · intro c' hc'
      cases hkeeps : keeps c' x with
      | true => rfl
      | false =>
        obtain ⟨before, after, hsplit⟩ := List.append_of_mem hc'
        obtain ⟨c'', hc'', hadds⟩ := hrest before c' after hsplit hkeeps
        exact (hlater ⟨c'', by simp [hsplit, hc''], hadds⟩).elim

end Amend

namespace Change

variable {c : Change} {cs : List Change} {live : List LiveTable} {table : LiveTable}

/-! ## One table -/

/-- What a change makes of a table that stays. -/
def revise : Change → LiveTable → LiveTable
  | .createTable _ _, t => t
  | .addColumn table column, t =>
    if t.name = table then
      { t with
        columns := t.columns ++ [column.name]
        references := t.references ++ referenced [column] }
    else t
  | .createIndex i, t =>
    if t.name = i.entity then { t with indexes := t.indexes ++ [i.asLive] } else t
  | .dropIndex name, t => { t with indexes := t.indexes.filter (·.name != name) }
  | .dropColumn table column, t =>
    if t.name = table then { t with columns := t.columns.filter (· != column) } else t
  | .dropTable _, t => t

def reviseAll (cs : List Change) (table : LiveTable) : LiveTable :=
  cs.foldl (fun table c => c.revise table) table

@[simp] theorem revise_name (c : Change) (table : LiveTable) :
    (c.revise table).name = table.name := by
  cases c <;> simp only [revise, apply_ite LiveTable.name, ite_self]

@[simp] theorem reviseAll_name (cs : List Change) (table : LiveTable) :
    (reviseAll cs table).name = table.name := by
  induction cs generalizing table with
  | nil => rfl
  | cons c rest ih => exact (ih (c.revise table)).trans (revise_name c table)

def column? (table : String) : Change → Option String
  | .addColumn other column => if table = other then some column.name else none
  | _ => none

def index? (table : String) : Change → Option LiveIndex
  | .createIndex i => if table = i.entity then some i.asLive else none
  | _ => none

def keepsColumn (table : String) (c : Change) (column : String) : Bool :=
  decide (c ≠ .dropColumn table column)

def keepsIndex (c : Change) (x : LiveIndex) : Bool := decide (c ≠ .dropIndex x.name)

def keepsTable (c : Change) (table : LiveTable) : Bool := decide (c ≠ .dropTable table.name)

theorem filter_keepsColumn {name : String} (h : ∀ column, c ≠ .dropColumn name column)
    (columns : List String) : columns.filter (c.keepsColumn name) = columns :=
  List.filter_eq_self.mpr fun column _ => decide_eq_true (h column)

theorem filter_keepsIndex (h : ∀ name, c ≠ .dropIndex name) (indexes : List LiveIndex) :
    indexes.filter c.keepsIndex = indexes :=
  List.filter_eq_self.mpr fun x _ => decide_eq_true (h x.name)

theorem filter_keepsTable (h : ∀ name, c ≠ .dropTable name) (live : List LiveTable) :
    live.filter c.keepsTable = live :=
  List.filter_eq_self.mpr fun table _ => decide_eq_true (h table.name)

theorem revise_columns (c : Change) (table : LiveTable) :
    (c.revise table).columns
      = table.columns.filter (c.keepsColumn table.name) ++ (c.column? table.name).toList := by
  cases c with
  | dropColumn name column =>
    by_cases hname : table.name = name
    · rw [hname]
      simp only [revise, hname, column?, if_true, Option.toList_none, List.append_nil]
      apply List.filter_congr
      intro x _
      unfold keepsColumn
      by_cases hx : x = column
      · simp [hx]
      · simp [hx, Ne.symm hx]
    · rw [filter_keepsColumn (by simp [Ne.symm hname])]
      simp [revise, column?, hname]
  | addColumn name column =>
    rw [filter_keepsColumn (by simp)]
    by_cases hname : table.name = name <;> simp [revise, column?, hname]
  | createIndex i =>
    rw [filter_keepsColumn (by simp)]
    by_cases hname : table.name = i.entity <;> simp [revise, column?, hname]
  | _ =>
    rw [filter_keepsColumn (by simp)]
    simp [revise, column?]

theorem revise_indexes (c : Change) (table : LiveTable) :
    (c.revise table).indexes
      = table.indexes.filter c.keepsIndex ++ (c.index? table.name).toList := by
  cases c with
  | dropIndex name =>
    simp only [revise, index?, Option.toList_none, List.append_nil]
    apply List.filter_congr
    intro x _
    unfold keepsIndex
    by_cases hx : x.name = name
    · simp [hx]
    · simp [hx, Ne.symm hx]
  | createIndex i =>
    rw [filter_keepsIndex (by simp)]
    by_cases hname : table.name = i.entity <;> simp [revise, index?, hname]
  | addColumn name column =>
    rw [filter_keepsIndex (by simp)]
    by_cases hname : table.name = name <;> simp [revise, index?, hname]
  | dropColumn name column =>
    rw [filter_keepsIndex (by simp)]
    by_cases hname : table.name = name <;> simp [revise, index?, hname]
  | _ =>
    rw [filter_keepsIndex (by simp)]
    simp [revise, index?]

theorem reviseAll_columns (cs : List Change) (table : LiveTable) :
    (reviseAll cs table).columns
      = amend (keepsColumn table.name) (column? table.name) cs table.columns := by
  induction cs generalizing table with
  | nil => rfl
  | cons c rest ih =>
    have hrest := ih (c.revise table)
    rwa [revise_name, revise_columns] at hrest

theorem reviseAll_indexes (cs : List Change) (table : LiveTable) :
    (reviseAll cs table).indexes = amend keepsIndex (index? table.name) cs table.indexes := by
  induction cs generalizing table with
  | nil => rfl
  | cons c rest ih =>
    have hrest := ih (c.revise table)
    rwa [revise_name, revise_indexes] at hrest

theorem subset_reviseAll_references (cs : List Change) (table : LiveTable) :
    table.references ⊆ (reviseAll cs table).references := by
  induction cs generalizing table with
  | nil => exact List.Subset.refl _
  | cons c rest ih =>
    have hstep : table.references ⊆ (c.revise table).references := by
      cases c with
      | addColumn name column =>
        by_cases hname : table.name = name <;> simp [revise, hname]
      | _ => simp [revise, apply_ite LiveTable.references]
    exact List.Subset.trans hstep (ih (c.revise table))

theorem column?_eq_some_iff {name column : String} :
    c.column? name = some column ↔ ∃ spec, c = .addColumn name spec ∧ spec.name = column := by
  cases c with
  | addColumn other spec => simp [column?, and_assoc, eq_comm]
  | _ => simp [column?]

theorem index?_eq_some_iff {name : String} {x : LiveIndex} :
    c.index? name = some x ↔ ∃ i, c = .createIndex i ∧ i.entity = name ∧ i.asLive = x := by
  cases c with
  | createIndex i => simp [index?, eq_comm]
  | _ => simp [index?]

theorem mem_of_mem_columns {n : String} (h : n ∈ (reviseAll cs table).columns) :
    (n ∈ table.columns ∧ .dropColumn table.name n ∉ cs)
      ∨ ∃ column, .addColumn table.name column ∈ cs ∧ column.name = n := by
  rw [reviseAll_columns] at h
  obtain ⟨hn, hkept⟩ | ⟨c, hc, hadds⟩ := mem_of_mem_amend h
  · exact .inl ⟨hn, fun hdropped => of_decide_eq_true (hkept _ hdropped) rfl⟩
  · obtain ⟨column, rfl, hname⟩ := column?_eq_some_iff.mp hadds
    exact .inr ⟨column, hc, hname⟩

theorem mem_of_mem_indexes {x : LiveIndex} (h : x ∈ (reviseAll cs table).indexes) :
    (x ∈ table.indexes ∧ .dropIndex x.name ∉ cs)
      ∨ ∃ i, .createIndex i ∈ cs ∧ i.entity = table.name ∧ i.asLive = x := by
  rw [reviseAll_indexes] at h
  obtain ⟨hx, hkept⟩ | ⟨c, hc, hadds⟩ := mem_of_mem_amend h
  · exact .inl ⟨hx, fun hdropped => of_decide_eq_true (hkept _ hdropped) rfl⟩
  · obtain ⟨i, rfl, hentity, hlive⟩ := index?_eq_some_iff.mp hadds
    exact .inr ⟨i, hc, hentity, hlive⟩

/-- A column that no change drops is there if it was, or if it is added. -/
theorem column_of_kept {n : String} (hdropped : .dropColumn table.name n ∉ cs)
    (h : n ∈ table.columns ∨ ∃ column, .addColumn table.name column ∈ cs ∧ column.name = n) :
    n ∈ (reviseAll cs table).columns := by
  have hkept : ∀ c ∈ cs, c.keepsColumn table.name n = true := by
    intro c hc
    apply decide_eq_true
    rintro rfl
    exact hdropped hc
  rw [reviseAll_columns]
  obtain hn | ⟨column, hc, hname⟩ := h
  · exact mem_amend_of_kept hn hkept
  · have hadds : (addColumn table.name column).column? table.name = some n :=
      column?_eq_some_iff.mpr ⟨column, rfl, hname⟩
    apply mem_amend_of_added ⟨_, hc, hadds⟩
    intro before c after hsplit hkeeps
    rw [hkept c (by simp [hsplit])] at hkeeps
    cases hkeeps

theorem index_of_kept {x : LiveIndex} (hx : x ∈ table.indexes) (hdropped : .dropIndex x.name ∉ cs) :
    x ∈ (reviseAll cs table).indexes := by
  rw [reviseAll_indexes]
  apply mem_amend_of_kept hx
  intro c hc
  apply decide_eq_true
  rintro rfl
  exact hdropped hc

/-- A created index is there, if it is created again whenever it is dropped. -/
theorem index_of_created {i : Index} (h : .createIndex i ∈ cs) (hname : i.entity = table.name)
    (hagain : ∀ before after, cs = before ++ .dropIndex i.name :: after → .createIndex i ∈ after) :
    i.asLive ∈ (reviseAll cs table).indexes := by
  have hadds : (createIndex i).index? table.name = some i.asLive :=
    index?_eq_some_iff.mpr ⟨i, rfl, hname, rfl⟩
  rw [reviseAll_indexes]
  apply mem_amend_of_added ⟨_, h, hadds⟩
  intro before c after hsplit hkeeps
  have hdrop : c = .dropIndex i.name := Decidable.not_not.mp (of_decide_eq_false hkeeps)
  rw [hdrop] at hsplit
  exact ⟨_, hagain before after hsplit, hadds⟩

/-! ## All tables -/

theorem applyAll_append (cs cs' : List Change) (live : List LiveTable) :
    applyAll (cs ++ cs') live = applyAll cs' (applyAll cs live) := List.foldl_append

theorem apply_eq (h : ∀ name columns, c ≠ .createTable name columns) (live : List LiveTable) :
    c.apply live = (live.filter c.keepsTable).map c.revise := by
  cases c with
  | createTable name columns => exact (h name columns rfl).elim
  | dropTable name =>
    have hrevise : (Change.dropTable name).revise = id := rfl
    rw [hrevise, List.map_id]
    apply List.filter_congr
    intro table _
    unfold keepsTable
    by_cases hname : table.name = name
    · simp [hname]
    · simp [hname, Ne.symm hname]
  | _ =>
    rw [filter_keepsTable (by simp)]
    rfl

/-- Changes that create no table leave those that none of them drops, each revised by all. -/
theorem applyAll_eq (h : ∀ name columns, .createTable name columns ∉ cs) (live : List LiveTable) :
    applyAll cs live
      = (live.filter fun table => cs.all (·.keepsTable table)).map (reviseAll cs) := by
  induction cs generalizing live with
  | nil =>
    have hid : reviseAll [] = id := rfl
    have hall : live.filter (fun table => ([] : List Change).all (·.keepsTable table)) = live :=
      List.filter_eq_self.mpr fun _ _ => rfl
    rw [hid, List.map_id, hall]
    rfl
  | cons c rest ih =>
    have hfirst : ∀ name columns, c ≠ .createTable name columns := by
      rintro name columns rfl
      exact h name columns List.mem_cons_self
    have hrest : ∀ name columns, .createTable name columns ∉ rest :=
      fun name columns hmem => h name columns (List.mem_cons_of_mem _ hmem)
    have hkept : ∀ table : LiveTable,
        (rest.all (·.keepsTable (c.revise table)) && c.keepsTable table)
          = (c :: rest).all (·.keepsTable table) := by
      intro table
      unfold keepsTable
      rw [revise_name, List.all_cons, Bool.and_comm]
    change applyAll rest (c.apply live) = _
    rw [ih hrest, apply_eq hfirst, List.filter_map, List.map_map, List.filter_filter]
    simp only [Function.comp_apply, hkept]
    rfl

theorem mem_applyAll (h : ∀ name columns, .createTable name columns ∉ cs) :
    table ∈ applyAll cs live
      ↔ ∃ t ∈ live, .dropTable t.name ∉ cs ∧ reviseAll cs t = table := by
  have hkept (t : LiveTable) : cs.all (·.keepsTable t) = true ↔ .dropTable t.name ∉ cs := by
    rw [List.all_eq_true]
    unfold keepsTable
    simp only [decide_eq_true_eq]
    exact List.forall_mem_ne'
  rw [applyAll_eq h]
  simp [hkept, and_assoc]

theorem applyAll_names_sublist (h : ∀ name columns, .createTable name columns ∉ cs)
    (live : List LiveTable) :
    ((applyAll cs live).map (·.name)).Sublist (live.map (·.name)) := by
  have hname : (·.name) ∘ reviseAll cs = (·.name) := funext (reviseAll_name cs)
  rw [applyAll_eq h, List.map_map, hname]
  exact List.filter_sublist.map _

end Change
end EntityMapper.Schema
