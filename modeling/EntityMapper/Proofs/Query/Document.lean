import EntityMapper.Proofs.Document
import EntityMapper.Proofs.Query.Levels

/-!
# Query documents member by member

What is read of an object depends on its known members alone, and on each of them by itself: the whole
can be read exactly when every member can.
-/

namespace EntityMapper

namespace QueryDocument

open Document

variable {members others : List (String × Json)} {key : String} {j : Json}

theorem relationsOf?_eq (members : List (String × Json)) :
    relationsOf? members = ((Dict.get? members "with").map relations?).getD (some none) := by
  induction members with
  | nil => rfl
  | cons entry rest ih =>
    obtain ⟨key, j⟩ := entry
    rw [relationsOf?, Dict.get?, ih]
    by_cases hkey : key = "with" <;> simp [hkey]

theorem relationsAt?_eq (place : Nat) (items : List Json) :
    relationsAt? place items = (items[place]?.map relations?).getD (some none) := by
  induction items generalizing place with
  | nil => cases place <;> rfl
  | cons j rest ih =>
    cases place with
    | zero => rfl
    | succ n => rw [relationsAt?, ih, List.getElem?_cons_succ]

theorem ofJson?_obj (members : List (String × Json)) :
    ofJson? (.obj members) = do
      return .mk (← QueryMembers.read? (memberNames.map (Dict.get? members)))
        (← ((Dict.get? members "with").map relations?).getD (some none)) := by
  rw [ofJson?, relationsOf?_eq]
  rfl

/-- Whether a member of this name can have this value, or be left out. -/
def memberReads (name : String) (part : Option Json) : Bool :=
  match name with
  | "limit" | "offset" => (optional? count? part).isSome
  | "sort" => (optional? SortSpec.ofJson? part).isSome
  | "where" => (optional? some part).isSome
  | "select" | "join" => (optional? NameList.ofJson? part).isSome
  | "with" => ((part.map relations?).getD (some none)).isSome
  | _ => true

theorem memberReads_none (name : String) : memberReads name none = true := by
  unfold memberReads
  split <;> rfl

theorem memberReads_unknown (h : key ∉ memberNames) (part : Option Json) :
    memberReads key part = true := by
  unfold memberReads
  split
  all_goals first
    | rfl
    | exact absurd (by decide) h

/-- The whole is read when each member is. -/
theorem isSome_ofJson? (members : List (String × Json)) :
    (ofJson? (.obj members)).isSome
      = memberNames.all fun name => memberReads name (Dict.get? members name) := by
  rw [ofJson?_obj, Bool.eq_iff_iff]
  simp only [Option.isSome_iff_exists, Option.bind_eq_bind, Option.bind_eq_some_iff, memberNames,
    QueryMembers.read?, memberReads, List.map, List.all, Bool.and_eq_true, Option.pure_def]
  simp [and_assoc]

theorem isSome_ofJson?_singleton (key : String) (j : Json) :
    (ofJson? (.obj [(key, j)])).isSome = memberReads key (some j) := by
  rw [isSome_ofJson?, Bool.eq_iff_iff, List.all_eq_true]
  constructor
  · intro hall
    by_cases hknown : key ∈ memberNames
    · have hmember := hall key hknown
      rwa [Dict.get?_cons, if_pos rfl] at hmember
    · exact memberReads_unknown hknown _
  · intro hmember name _
    rw [Dict.get?_cons]
    split
    · rename_i hname
      rwa [← hname]
    · exact memberReads_none name

theorem isSome_of_members (h : ∀ entry ∈ members, (ofJson? (.obj [entry])).isSome = true) :
    (ofJson? (.obj members)).isSome = true := by
  rw [isSome_ofJson?, List.all_eq_true]
  intro name _
  cases hget : Dict.get? members name with
  | none => exact memberReads_none name
  | some j =>
    rw [← isSome_ofJson?_singleton]
    exact h (name, j) (Dict.mem_of_get? hget)

/-! ## Unknown members -/

/-- The members that a query document can have. -/
def known (members : List (String × Json)) : List (String × Json) :=
  members.filter fun entry => entry.1 ∈ memberNames

theorem get?_known {name : String} (h : name ∈ memberNames) (members : List (String × Json)) :
    Dict.get? (known members) name = Dict.get? members name := by
  unfold known
  rw [Dict.get?_filter members fun key => decide (key ∈ memberNames), if_pos (decide_eq_true h)]

/-- Unknown members are passed over, on every level of a document. -/
theorem ofJson?_known (members : List (String × Json)) :
    ofJson? (.obj (known members)) = ofJson? (.obj members) := by
  have hparts : memberNames.map (Dict.get? (known members)) = memberNames.map (Dict.get? members) :=
    List.map_congr_left fun name hname => get?_known hname members
  rw [ofJson?_obj, ofJson?_obj, hparts, get?_known (by decide)]

theorem isSome_of_unknown (h : key ∉ memberNames) (j : Json) :
    (ofJson? (.obj [(key, j)])).isSome = true := by
  rw [isSome_ofJson?_singleton, memberReads_unknown h]

/-! ## What is said of a document that does not fit -/

def checkMember (entry : String × Json) : Except QueryError Unit :=
  if (ofJson? (.obj [entry])).isSome then .ok () else .error (.malformedMember entry.1)

theorem ofObject_obj (members : List (String × Json)) :
    ofObject (.obj members) = members.forM checkMember >>= fun _ =>
      match ofJson? (.obj members) with
      | some q => .ok q
      | none => .error (.malformedMember "query") := rfl

theorem checkMember_ok_iff {entry : String × Json} :
    checkMember entry = .ok () ↔ (ofJson? (.obj [entry])).isSome = true := by
  unfold checkMember
  split <;> simp [*]

theorem of_checkMember_error {entry : String × Json} {e : QueryError}
    (h : checkMember entry = .error e) :
    ofJson? (.obj [entry]) = none ∧ e = .malformedMember entry.1 := by
  unfold checkMember at h
  split at h
  · cases h
  · rename_i hnone
    cases h
    exact ⟨Option.not_isSome_iff_eq_none.mp hnone, rfl⟩

theorem of_ofObject {doc : Json} {d : QueryDocument} (h : ofObject doc = .ok d) :
    ofJson? doc = some d := by
  cases doc with
  | obj members =>
    rw [ofObject_obj] at h
    obtain ⟨_, -, h⟩ := Result.of_bind h
    split at h
    · rename_i found
      cases h
      exact found
    · cases h
  | _ => cases h

theorem ofObject_of_members (h : ∀ entry ∈ members, (ofJson? (.obj [entry])).isSome = true) :
    ∃ d, ofJson? (.obj members) = some d ∧ ofObject (.obj members) = .ok d := by
  obtain ⟨d, hd⟩ := Option.isSome_iff_exists.mp (isSome_of_members h)
  have hcheck : members.forM checkMember = .ok () :=
    Result.forM_ok_iff.mpr fun entry hentry => checkMember_ok_iff.mpr (h entry hentry)
  refine ⟨d, hd, ?_⟩
  rw [ofObject_obj, hcheck, hd]
  rfl

theorem members_of_ofObject {d : QueryDocument} (h : ofObject (.obj members) = .ok d) :
    ∀ entry ∈ members, (ofJson? (.obj [entry])).isSome = true := by
  rw [ofObject_obj] at h
  obtain ⟨_, hcheck, -⟩ := Result.of_bind h
  exact fun entry hentry => checkMember_ok_iff.mp (Result.forM_ok_iff.mp hcheck entry hentry)

/-- The member is the first of the object that does not fit. -/
def FirstMisfit (members : List (String × Json)) (key : String) : Prop :=
  ∃ before j after, members = before ++ (key, j) :: after
    ∧ (∀ entry ∈ before, (ofJson? (.obj [entry])).isSome = true) ∧ ofJson? (.obj [(key, j)]) = none

theorem ofObject_error {e : QueryError} (h : ofObject (.obj members) = .error e) :
    ∃ key, e = .malformedMember key ∧ FirstMisfit members key := by
  cases hcheck : members.forM checkMember with
  | ok _ =>
    have hfits : ∀ entry ∈ members, (ofJson? (.obj [entry])).isSome = true :=
      fun entry hentry => checkMember_ok_iff.mp (Result.forM_ok_iff.mp hcheck entry hentry)
    obtain ⟨d, -, hd⟩ := ofObject_of_members hfits
    rw [hd] at h
    cases h
  | error fault =>
    rw [ofObject_obj, hcheck] at h
    cases h
    obtain ⟨before, ⟨key, j⟩, after, hmembers, hbefore, hfault⟩ := Result.first_error_of_forM hcheck
    obtain ⟨hnone, he⟩ := of_checkMember_error hfault
    exact ⟨key, he, before, j, after, hmembers,
      fun entry hentry => checkMember_ok_iff.mp (hbefore entry hentry), hnone⟩

theorem ofObject_of_misfit {entry : String × Json} (hentry : entry ∈ members)
    (hnone : ofJson? (.obj [entry]) = none) :
    ∃ key, ofObject (.obj members) = .error (.malformedMember key) := by
  cases hread : ofObject (.obj members) with
  | ok d =>
    have hsome := members_of_ofObject hread entry hentry
    rw [hnone] at hsome
    cases hsome
  | error e =>
    obtain ⟨key, rfl, -⟩ := ofObject_error hread
    exact ⟨key, rfl⟩

theorem FirstMisfit.exists (h : FirstMisfit members key) :
    ∃ j, (key, j) ∈ members ∧ ofJson? (.obj [(key, j)]) = none := by
  obtain ⟨before, j, after, rfl, -, hnone⟩ := h
  exact ⟨j, by simp, hnone⟩

theorem FirstMisfit.known (h : FirstMisfit members key) : key ∈ memberNames := by
  obtain ⟨j, -, hnone⟩ := h.exists
  by_contra hunknown
  have hsome := isSome_of_unknown hunknown j
  rw [hnone] at hsome
  cases hsome

/-- Where members are in the order of their keys, the first that does not fit has the least key. -/
theorem FirstMisfit.le (h : FirstMisfit members key) (hsorted : Dict.Sorted members)
    {other : String} (hother : (other, j) ∈ members) (hmisfit : ofJson? (.obj [(other, j)]) = none) :
    key ≤ other := by
  obtain ⟨before, i, after, rfl, hbefore, -⟩ := h
  rw [Dict.Sorted, List.map_append, List.map_cons, List.pairwise_append] at hsorted
  -- The members before the first all fit, and behind it the keys are greater.
  rcases List.mem_append.mp hother with hother | hother
  · have hfits := hbefore _ hother
    rw [hmisfit] at hfits
    cases hfits
  · rcases List.mem_cons.mp hother with hother | hother
    · cases hother
      exact String.le_refl key
    · have hlt := (List.pairwise_cons.mp hsorted.2.1).1 other (List.mem_map_of_mem hother)
      exact String.not_lt.mp (String.lt_asymm hlt)

theorem ofObject_known (members : List (String × Json)) :
    ofObject (.obj (known members)) = ofObject (.obj members) := by
  have hcheck : (known members).forM checkMember = members.forM checkMember := by
    refine Result.forM_filter fun entry _ hunknown => checkMember_ok_iff.mpr ?_
    exact isSome_of_unknown (of_decide_eq_false hunknown) entry.2
  rw [ofObject_obj, ofObject_obj, hcheck, ofJson?_known]

end QueryDocument

/-! ## Queries -/

/-- The member that an error of a query document names. -/
def QueryError.queryMember? : QueryError → Option String
  | .queryNotObject _ => some "query"
  | .malformedMember key => some key
  | _ => none

theorem FilterInput.queryMember?_of_ofJson {doc : Json} {e : QueryError} (h : ofJson doc = .error e) :
    e.queryMember? = none := by
  unfold ofJson at h
  split at h
  · cases h
  · split at h <;> cases h <;> rfl
  · cases h
    rfl

namespace Query

variable {o : QueryOptions} {e : QueryError}

theorem queryMember?_of_readLevel {m : QueryMembers} (h : readLevel o m = .error e) :
    e.queryMember? = none := by
  unfold readLevel at h
  cases hfilter : m.filter with
  | none =>
    rw [hfilter] at h
    cases h
  | some doc =>
    rw [hfilter] at h
    rcases Result.error_of_bind h with h | ⟨_, -, h⟩
    · exact FilterInput.queryMember?_of_ofJson h
    · cases h

mutual
/-- A document that fits is refused for what stands under `where` alone. -/
theorem queryMember?_of_read : (d : QueryDocument) → read o d = .error e → e.queryMember? = none
  | .mk m relations, h => by
    rw [read] at h
    rcases Result.error_of_bind h with h | ⟨level, -, h⟩
    · exact queryMember?_of_readLevel h
    · rcases Result.error_of_bind h with h | ⟨nested, -, h⟩
      · exact queryMember?_of_readRelations relations h
      · cases h

theorem queryMember?_of_readRelations :
    (relations : Option RelationsDocument) → readRelations o relations = .error e →
      e.queryMember? = none
  | none, h => nomatch h
  | some (.names _), h => nomatch h
  | some (.nested queries), h => queryMember?_of_readNested queries h

theorem queryMember?_of_readNested :
    (queries : List (String × QueryDocument)) → readNested o queries = .error e →
      e.queryMember? = none
  | [], h => nomatch h
  | (name, d) :: rest, h => by
    rw [readNested] at h
    rcases Result.error_of_bind h with h | ⟨q, -, h⟩
    · exact queryMember?_of_read d h
    · rcases Result.error_of_bind h with h | ⟨others, -, h⟩
      · exact queryMember?_of_readNested rest h
      · cases h
end

theorem ofJson_obj_error {members : List (String × Json)} {name : String}
    (h : ofJson o (.obj members) = .error e) (hname : e.queryMember? = some name) :
    QueryDocument.FirstMisfit members name := by
  unfold ofJson at h
  rcases Result.error_of_bind h with h | ⟨d, -, h⟩
  · obtain ⟨key, rfl, hfirst⟩ := QueryDocument.ofObject_error h
    obtain rfl : key = name := Option.some.inj hname
    exact hfirst
  · rw [queryMember?_of_read d h] at hname
    cases hname

/-- An object is refused as a query document exactly when some member does not fit by itself. Of such
members the one with the least key is named. Where all fit, the whole does, so that `query` is only named
for what is no object. Unknown members are passed over, on every level. -/
theorem first_misfit_is_named (o : QueryOptions) {members : List (String × Json)}
    (h : Dict.Sorted members) :
    ((∃ e name, ofJson o (.obj members) = .error e ∧ e.queryMember? = some name)
        ↔ ∃ entry ∈ members, QueryDocument.ofJson? (.obj [entry]) = none)
      ∧ (∀ e name, ofJson o (.obj members) = .error e → e.queryMember? = some name →
        name ≠ "query" ∧ name ∈ QueryDocument.memberNames
        ∧ (∃ j, (name, j) ∈ members ∧ QueryDocument.ofJson? (.obj [(name, j)]) = none)
        ∧ ∀ key j, (key, j) ∈ members → QueryDocument.ofJson? (.obj [(key, j)]) = none → name ≤ key)
      ∧ ((∀ entry ∈ members, QueryDocument.ofJson? (.obj [entry]) ≠ none) →
        ∃ d, QueryDocument.ofJson? (.obj members) = some d ∧ ofJson o (.obj members) = read o d)
      ∧ (∀ doc : Json, doc.obj? = none → ofJson o doc = .error (.queryNotObject doc))
      ∧ (∀ key j, key ∉ QueryDocument.memberNames → QueryDocument.ofJson? (.obj [(key, j)]) ≠ none)
      ∧ (∀ given, QueryDocument.ofJson? (.obj (QueryDocument.known given))
        = QueryDocument.ofJson? (.obj given))
      ∧ ofJson o (.obj (QueryDocument.known members)) = ofJson o (.obj members) := by
  have hwhole (hfits : ∀ entry ∈ members, QueryDocument.ofJson? (.obj [entry]) ≠ none) :
      ∃ d, QueryDocument.ofJson? (.obj members) = some d ∧ ofJson o (.obj members) = read o d := by
    obtain ⟨d, hd, hread⟩ := QueryDocument.ofObject_of_members fun entry hentry =>
      Option.isSome_iff_ne_none.mpr (hfits entry hentry)
    refine ⟨d, hd, ?_⟩
    unfold ofJson
    rw [hread]
    rfl
  refine ⟨⟨?_, ?_⟩, ?_, hwhole, ?_, ?_, QueryDocument.ofJson?_known, ?_⟩
  · rintro ⟨e, name, he, hname⟩
    obtain ⟨j, hj, hnone⟩ := (ofJson_obj_error he hname).exists
    exact ⟨_, hj, hnone⟩
  · rintro ⟨entry, hentry, hnone⟩
    obtain ⟨key, hread⟩ := QueryDocument.ofObject_of_misfit hentry hnone
    refine ⟨.malformedMember key, key, ?_, rfl⟩
    unfold ofJson
    rw [hread]
    rfl
  · intro e name he hname
    have hfirst := ofJson_obj_error he hname
    refine ⟨?_, hfirst.known, hfirst.exists, fun key j hj hnone => hfirst.le h hj hnone⟩
    rintro rfl
    exact absurd hfirst.known (by decide)
  · intro doc hdoc
    cases doc with
    | obj members => cases hdoc
    | _ => rfl
  · exact fun key j hunknown =>
      Option.isSome_iff_ne_none.mp (QueryDocument.isSome_of_unknown hunknown j)
  · unfold ofJson
    rw [QueryDocument.ofObject_known]

/-- The sort order and the limit do not fit; the limit is named, and nothing is said of the page. -/
theorem first_misfit_is_named_limit :
    let members : List (String × Json) :=
      [("limit", .int (-1)), ("page", .int 2), ("sort", .int 5), ("with", .str "author")]
    Dict.Sorted members
      ∧ ofJson {} (.obj members) = .error (.malformedMember "limit")
      ∧ (∃ entry ∈ members, QueryDocument.ofJson? (.obj [entry]) = none)
      ∧ ∀ key j, (key, j) ∈ members → QueryDocument.ofJson? (.obj [(key, j)]) = none →
        "limit" ≤ key := by
  intro members
  have hsorted : Dict.Sorted members := by
    unfold Dict.Sorted
    decide
  have hlimit : ofJson {} (.obj members) = .error (.malformedMember "limit") := by rfl
  obtain ⟨hrefused, hnamed, -⟩ := first_misfit_is_named {} hsorted
  exact ⟨hsorted, hlimit, hrefused.mp ⟨_, _, hlimit, rfl⟩, (hnamed _ _ hlimit rfl).2.2.2⟩

end Query
end EntityMapper
