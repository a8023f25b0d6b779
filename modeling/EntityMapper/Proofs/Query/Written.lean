import EntityMapper.Proofs.Query.Document

/-!
# Query documents that were written

What was read of a document is read again from the document that is written of it, at every depth,
however the first was written: in an object or in an array, with members that are null or unknown.
-/

namespace EntityMapper

open Document

/-! ## Sort orders and names -/

@[simp] theorem SortDirection.read_name (direction : SortDirection) :
    choice? [("asc", .ascending), ("desc", .descending)] (.str (SortSpec.directionName direction))
      = some direction := by
  cases direction <;> rfl

theorem SortSpec.ofJson?_obj (members : List (String × Json)) :
    ofJson? (.obj members) = do
      return .order ⟨← required? text? (Dict.get? members "by"),
        ← withDefault? .ascending (choice? [("asc", .ascending), ("desc", .descending)])
          (Dict.get? members "dir")⟩ := rfl

theorem SortSpec.get?_toJson (o : SortOrder) :
    ∃ doc, toJson (.order o) = .obj doc ∧ ∀ name, Dict.get? doc name = (Dict.get?
      [("by", some (.str o.key)), ("dir", some (.str (directionName o.direction)))] name).join :=
  get?_objectOf (by simp)

theorem SortSpec.ofJson?_toJson (spec : SortSpec) : ofJson? spec.toJson = some spec := by
  cases spec with
  | text s => rfl
  | order o =>
    obtain ⟨doc, hdoc, hget⟩ := get?_toJson o
    rw [hdoc, ofJson?_obj, hget, hget]
    simp [Dict.get?, required?, text?, Json.str?, withDefault?]

theorem SortSpec.isNull_toJson (spec : SortSpec) : spec.toJson.isNull = false := by
  cases spec <;> rfl

theorem NameList.mapM_str? (names : List String) :
    (names.map Json.str).mapM Json.str? = some names := by
  have hread : list? text? (.arr (names.map .str)) = some names := list?_map fun _ _ => rfl
  exact hread

theorem NameList.ofJson?_toJson (list : NameList) : ofJson? list.toJson = some list := by
  cases list with
  | text s => rfl
  | items names =>
    rw [toJson, ofJson?, mapM_str?]
    rfl

theorem NameList.isNull_toJson (list : NameList) : list.toJson.isNull = false := by
  cases list <;> rfl

/-! ## Members -/

/-- What a document can tell: numbers fit 32 bits, and a filter is not null, which would be read as
none. -/
structure QueryMembers.Expressible (m : QueryMembers) : Prop where
  limit : ∀ n ∈ m.limit, n ≤ maxCount
  offset : ∀ n ∈ m.offset, n ≤ maxCount
  filter : ∀ j ∈ m.filter, j.isNull = false

theorem QueryMembers.expressible_of_read? {m : QueryMembers} {parts : List (Option Json)}
    (h : read? parts = some m) : m.Expressible := by
  unfold read? at h
  split at h
  · simp only [Option.bind_eq_bind, Option.bind_eq_some_iff] at h
    obtain ⟨limit, hlimit, offset, hoffset, sort, -, filter, hfilter, select, -, join, -, h⟩ := h
    cases h
    refine ⟨le_of_optional?_count hlimit, le_of_optional?_count hoffset, fun j hj => ?_⟩
    obtain ⟨_, hnull, hread⟩ := exists_of_optional? hfilter j hj
    cases hread
    exact hnull
  · cases h

namespace QueryDocument

variable {m : QueryMembers} {relations : Option RelationsDocument}

theorem get?_toJson (m : QueryMembers) (relations : Option RelationsDocument) :
    ∃ doc, toJson (.mk m relations) = .obj doc ∧ ∀ name, Dict.get? doc name
      = (Dict.get? (m.written ++ [("with", relationsToJson relations)]) name).join := by
  rw [toJson]
  exact get?_objectOf (by simp [QueryMembers.written])

/-- Apart from `with`, each member is read as it was. -/
theorem read?_written (h : m.Expressible) (part : Option Json) :
    QueryMembers.read? (memberNames.map fun name =>
      (Dict.get? (m.written ++ [("with", part)]) name).join) = some m := by
  have hsort : optional? SortSpec.ofJson? (m.sort.map SortSpec.toJson) = some m.sort :=
    optional?_map fun spec _ => ⟨spec.isNull_toJson, spec.ofJson?_toJson⟩
  have hnames (list : Option NameList) :
      optional? NameList.ofJson? (list.map NameList.toJson) = some list :=
    optional?_map fun names _ => ⟨names.isNull_toJson, names.ofJson?_toJson⟩
  simp [memberNames, QueryMembers.written, Dict.get?, QueryMembers.read?, optional?_count h.limit,
    optional?_count h.offset, hsort, optional?_value h.filter, hnames]

theorem ofJson?_toJson_of (hm : m.Expressible)
    (hrelations : ((relationsToJson relations).map relations?).getD (some none) = some relations) :
    ofJson? (toJson (.mk m relations)) = some (.mk m relations) := by
  obtain ⟨doc, hdoc, hget⟩ := get?_toJson m relations
  have hparts : memberNames.map (Dict.get? doc) = memberNames.map fun name =>
      (Dict.get? (m.written ++ [("with", relationsToJson relations)]) name).join :=
    List.map_congr_left fun name _ => hget name
  have hwith : Dict.get? doc "with" = relationsToJson relations := hget "with"
  rw [hdoc, ofJson?_obj, hparts, hwith, read?_written hm, hrelations]
  rfl

/-! ## Every depth -/

mutual
/-- Documents can tell what the query asks for, and what each nested in it does. -/
def Expressible : QueryDocument → Prop
  | .mk m relations => m.Expressible ∧ RelationsExpressible relations

def RelationsExpressible : Option RelationsDocument → Prop
  | none => True
  | some (.names _) => True
  | some (.nested queries) => NestedExpressible queries

def NestedExpressible : List (String × QueryDocument) → Prop
  | [] => True
  | (_, q) :: rest => Expressible q ∧ NestedExpressible rest
end

mutual
theorem expressible_of_ofJson? : (doc : Json) → {q : QueryDocument} →
    ofJson? doc = some q → q.Expressible
  | .obj entries, q, h => by
    simp only [ofJson?, Option.bind_eq_bind, Option.bind_eq_some_iff] at h
    obtain ⟨_, -, m, hm, relations, hrelations, h⟩ := h
    cases h
    exact ⟨QueryMembers.expressible_of_read? hm, expressible_of_relationsOf? entries hrelations⟩
  | .arr items, q, h => by
    simp only [ofJson?, Option.bind_eq_bind, Option.bind_eq_some_iff] at h
    obtain ⟨_, -, m, hm, relations, hrelations, h⟩ := h
    cases h
    exact ⟨QueryMembers.expressible_of_read? hm, expressible_of_relationsAt? 6 items hrelations⟩
  | .null, _, h => nomatch h
  | .bool _, _, h => nomatch h
  | .int _, _, h => nomatch h
  | .float _, _, h => nomatch h
  | .str _, _, h => nomatch h

theorem expressible_of_relationsOf? : (entries : List (String × Json)) →
    {relations : Option RelationsDocument} → relationsOf? entries = some relations →
      RelationsExpressible relations
  | [], _, h => by
    cases h
    trivial
  | (key, j) :: rest, _, h => by
    rw [relationsOf?] at h
    split at h
    · exact expressible_of_relations? j h
    · exact expressible_of_relationsOf? rest h

theorem expressible_of_relationsAt? : (place : Nat) → (items : List Json) →
    {relations : Option RelationsDocument} → relationsAt? place items = some relations →
      RelationsExpressible relations
  | _, [], _, h => by
    rw [relationsAt?] at h
    cases h
    trivial
  | 0, j :: _, _, h => expressible_of_relations? j h
  | n + 1, _ :: rest, _, h => expressible_of_relationsAt? n rest h

theorem expressible_of_relations? : (doc : Json) → {relations : Option RelationsDocument} →
    relations? doc = some relations → RelationsExpressible relations
  | .null, _, h => by
    cases h
    trivial
  | .str _, _, h => by
    cases h
    trivial
  | .arr items, _, h => by
    obtain ⟨names, -, rfl⟩ := Option.map_eq_some_iff.mp h
    trivial
  | .obj entries, _, h => by
    obtain ⟨queries, hqueries, rfl⟩ := Option.map_eq_some_iff.mp h
    exact expressible_of_nested? entries hqueries
  | .bool _, _, h => nomatch h
  | .int _, _, h => nomatch h
  | .float _, _, h => nomatch h

theorem expressible_of_nested? : (entries : List (String × Json)) →
    {queries : List (String × QueryDocument)} → nested? entries = some queries →
      NestedExpressible queries
  | [], _, h => by
    cases h
    trivial
  | (name, j) :: rest, _, h => by
    simp only [nested?, Option.bind_eq_bind, Option.bind_eq_some_iff] at h
    obtain ⟨q, hq, others, hothers, h⟩ := h
    cases h
    exact ⟨expressible_of_ofJson? j hq, expressible_of_nested? rest hothers⟩
end

mutual
theorem ofJson?_toJson : (q : QueryDocument) → q.Expressible → ofJson? q.toJson = some q
  | .mk _ relations, h => ofJson?_toJson_of h.1 (relations?_toJson relations h.2)

theorem relations?_toJson : (relations : Option RelationsDocument) →
    RelationsExpressible relations →
      ((relationsToJson relations).map relations?).getD (some none) = some relations
  | none, _ => rfl
  | some (.names (.text _)), _ => rfl
  | some (.names (.items names)), _ => by
    change ((names.map Json.str).mapM Json.str?).map _ = _
    rw [NameList.mapM_str?]
    rfl
  | some (.nested queries), h => by
    change (nested? (nestedToJson queries)).map _ = _
    rw [nested?_toJson queries h]
    rfl

theorem nested?_toJson : (queries : List (String × QueryDocument)) → NestedExpressible queries →
    nested? (nestedToJson queries) = some queries
  | [], _ => rfl
  | (name, q) :: rest, h => by
    rw [nestedToJson, nested?, ofJson?_toJson q h.1, nested?_toJson rest h.2]
    rfl
end

theorem exists_toJson (q : QueryDocument) : ∃ doc, q.toJson = .obj doc ∧ Dict.Sorted doc := by
  obtain ⟨m, relations⟩ := q
  rw [toJson]
  exact ⟨_, rfl, Dict.sorted_ofList _⟩

/-- Each member of an object that is read as a whole is read by itself. -/
theorem ofObject_of_ofJson? {doc : Dict Json} (hsorted : Dict.Sorted doc) {q : QueryDocument}
    (h : ofJson? (.obj doc) = some q) : ofObject (.obj doc) = .ok q := by
  have hmembers := isSome_ofJson? doc
  rw [h, eq_comm, Option.isSome_some, List.all_eq_true] at hmembers
  have hfits : ∀ entry ∈ doc, (ofJson? (.obj [entry])).isSome = true := by
    -- The keys differ, so the member that is found under a key is the one that stands there.
    rintro ⟨key, j⟩ hentry
    rw [isSome_ofJson?_singleton]
    by_cases hknown : key ∈ memberNames
    · have hmember := hmembers key hknown
      rwa [Dict.get?_of_mem hsorted.nodup hentry] at hmember
    · exact memberReads_unknown hknown _
  obtain ⟨d, hd, hread⟩ := ofObject_of_members hfits
  rw [h] at hd
  cases hd
  exact hread

/-- A query that was read of any document, in whatever form, is read again from the document written of
it. So both documents ask for one query under all options, and for the written one this is the answer
of `Query.ofJson`, which takes objects alone. -/
theorem written_and_read_again {doc : Json} {q : QueryDocument} (h : ofJson? doc = some q) :
    ofJson? q.toJson = some q
      ∧ (∀ o, (ofJson? q.toJson).map (Query.read o) = (ofJson? doc).map (Query.read o))
      ∧ ∀ o, Query.ofJson o q.toJson = Query.read o q := by
  have hagain : ofJson? q.toJson = some q := ofJson?_toJson q (expressible_of_ofJson? doc h)
  refine ⟨hagain, fun o => by rw [hagain, h], fun o => ?_⟩
  obtain ⟨written, hwritten, hsorted⟩ := exists_toJson q
  rw [hwritten] at hagain ⊢
  unfold Query.ofJson
  rw [ofObject_of_ofJson? hsorted hagain]
  rfl

/-- Two records are arrays, one member is null and one unknown. Each record is written as an object of
what was said. -/
theorem written_and_read_again_posts :
    let doc : Json := .obj [("limit", .null), ("page", .int 2), ("sort", .arr [.str "title"]),
      ("with", .obj [("author", .arr [.int 20]), ("tags", .obj [("with", .str "posts")])])]
    let written : Json := .obj [("sort", .obj [("by", .str "title"), ("dir", .str "asc")]),
      ("with", .obj [("author", .obj [("limit", .int 20)]), ("tags", .obj [("with", .str "posts")])])]
    ∃ q, ofJson? doc = some q ∧ q.toJson = written ∧ ofJson? written = some q
      ∧ Query.ofJson {} written = Query.read {} q := by
  intro doc written
  let q : QueryDocument := .mk { sort := some (.order ⟨"title", .ascending⟩) }
    (some (.nested [("author", .mk { limit := some 20 } none),
      ("tags", .mk {} (some (.names (.text "posts"))))]))
  have hread : ofJson? doc = some q := rfl
  have hwritten : q.toJson = written := rfl
  obtain ⟨hagain, -, hquery⟩ := written_and_read_again hread
  rw [hwritten] at hagain hquery
  exact ⟨q, hread, hwritten, hagain, hquery {}⟩

end QueryDocument
end EntityMapper
